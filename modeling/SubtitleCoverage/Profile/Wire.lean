import SubtitleCoverage.Media.Wire
import SubtitleCoverage.Profile.Basic

/-!
# Profiles on the wire

How language profiles are written in JSON and read from it.

## Main definitions

* `LanguageProfile.toJson`, `LanguageProfile.ofJson?`.
-/

namespace SubtitleCoverage

open Json

/-- A preference in JSON. -/
def ForcedSubtitles.toJson (f : ForcedSubtitles) : Json := .str f.name

/-- The preference of a JSON value. -/
def ForcedSubtitles.ofJson? (j : Json) : Option ForcedSubtitles := (asName? j).bind ofName?

namespace LanguageProfile

/-- The names of the fields of a profile. -/
def fieldNames : List String :=
  ["id", "name", "sourceLanguage", "targetLanguages", "translationBackend", "fallbackChain",
    "forcedSubtitlePreference", "isDefault"]

/-- A profile in JSON. -/
def toJson (p : LanguageProfile) : Json :=
  .obj [("id", p.id.toJson), ("name", .str p.name), ("sourceLanguage", .str p.sourceLanguage),
    ("targetLanguages", ofList .str p.targetLanguages), ("translationBackend", .str p.primary),
    ("fallbackChain", ofList .str p.fallbacks), ("forcedSubtitlePreference", p.forced.toJson),
    ("isDefault", .bool p.isDefault)]

/-- The profile of a JSON value. -/
def ofJson? (j : Json) : Option LanguageProfile := do
  let r ← fields? fieldNames j
  return {
    id := ← r.required "id" ProfileId.ofJson?
    name := ← r.required "name" asText?
    sourceLanguage := ← r.required "sourceLanguage" asText?
    targetLanguages := ← r.required "targetLanguages" (asList? asText?)
    primary := ← r.withDefault "translationBackend" "" asText?
    fallbacks := ← r.withDefault "fallbackChain" [] (asList? asText?)
    forced := ← r.withDefault "forcedSubtitlePreference" .disabled ForcedSubtitles.ofJson?
    isDefault := ← r.withDefault "isDefault" false asBool? }

end LanguageProfile

end SubtitleCoverage
