import SubtitleCoverage.Media.Basic
import SubtitleCoverage.Profile.Basic

/-!
# Coverage of a media unit

What a unit declares about its subtitles and the sidecar files next to it are two accounts of the
same thing. They are brought together for the target languages of a profile: the state of a language
follows from what is declared, and a sidecar of the declared form is the file behind it.

## Main definitions

* `CoverageState`, `classify` — how well a language is covered by a form of subtitles.
* `Resolution`, `resolve` — the coverage of a unit, with the sidecars left over.
* `Resolution.get?`, `Resolution.count` — the coverage of a language, and the languages in a state.
-/

namespace SubtitleCoverage

open Text

/-! ### States -/

/-- How well a language is covered. -/
inductive CoverageState where
  /-- There are styled subtitles. -/
  | optimal
  /-- There are plain subtitles only. -/
  | upgradeable
  | missing
deriving DecidableEq, Repr

/-- The name of a state. -/
def CoverageState.name : CoverageState → String
  | .optimal => "optimal"
  | .upgradeable => "upgradeable"
  | .missing => "missing"

/-- How well a form of subtitles covers a language. -/
def classify : SubtitleFormat → CoverageState
  | .ass | .embeddedAss => .optimal
  | .srt | .embeddedSrt => .upgradeable
  | .absent => .missing

/-- The coverage of one language. -/
structure Coverage where
  state : CoverageState
  /-- The path of the sidecar behind it, if there is one. -/
  sidecarPath : Option String
  isEmbedded : Bool
  /-- The form from which the state follows. -/
  format : SubtitleFormat
deriving DecidableEq, Repr

/-- The coverage of a target language, in the spelling of the profile. -/
structure LanguageCoverage where
  language : String
  coverage : Coverage
deriving DecidableEq, Repr

/-- The coverage of a unit. -/
structure Resolution where
  /-- The coverage of each target language, in the order of the profile. -/
  perLanguage : List LanguageCoverage := []
  /-- The sidecars of other languages. -/
  extras : List Sidecar := []
  /-- The sidecars that could take the place of the one behind a language. -/
  duplicates : List Sidecar := []
deriving DecidableEq, Repr

/-! ### Groups of sidecars -/

/-- What sidecars that could take each other's place have in common. -/
structure SidecarGroup where
  language : String
  format : SidecarFormat
deriving DecidableEq, Repr

/-- The group of a sidecar, if its form is known. -/
def Sidecar.group? (s : Sidecar) : Option SidecarGroup :=
  s.format?.map fun format => ⟨s.normalizedLanguage, format⟩

/-- The form that a unit has for a target language; none without a video file. -/
def slotFormat (u : MediaUnit) (target : String) : SubtitleFormat :=
  if u.hasFile then u.declaredFormat (trim target) else .absent

/-- The group of the sidecars behind a target language, if its subtitles are in a file. -/
def slotGroup? (u : MediaUnit) (target : String) : Option SidecarGroup :=
  (slotFormat u target).sidecarFormat?.map fun format =>
    ⟨LanguageProfile.targetCode target, format⟩

/-! ### Resolution -/

/-- The coverage of a target language by a unit with some sidecars. The first sidecar of the group
is the one behind it. -/
def coverageOf (u : MediaUnit) (sidecars : List Sidecar) (target : String) : Coverage :=
  let format := slotFormat u target
  let behind := (slotGroup? u target).bind fun g => sidecars.find? fun s => s.group? = some g
  ⟨classify format, behind.map (·.path), format.isEmbedded, format⟩

/-- The sidecars of wanted groups that are not the first of their group, where the groups `seen`
have had their first. -/
def repeatedSidecars (wanted : List SidecarGroup) :
    List SidecarGroup → List Sidecar → List Sidecar
  | _, [] => []
  | seen, s :: ss =>
    match s.group? with
    | none => repeatedSidecars wanted seen ss
    | some g =>
      -- The first sidecar of a wanted group is the one behind the languages of that group.
      if g ∈ seen ∧ g ∈ wanted then s :: repeatedSidecars wanted seen ss
      else repeatedSidecars wanted (g :: seen) ss

/-- The coverage of a unit for a profile. Sidecars without path or language count for nothing. -/
def resolve (u : MediaUnit) (sidecars : List Sidecar) (p : LanguageProfile) : Resolution :=
  let usable := sidecars.filter (·.isWellFormed)
  { perLanguage := p.targetLanguages.map fun t => ⟨t, coverageOf u usable t⟩
    extras := usable.filter fun s => !p.normalizedTargets.contains s.normalizedLanguage
    duplicates := repeatedSidecars (p.targetLanguages.filterMap (slotGroup? u)) [] usable }

namespace Resolution

/-- The coverage of the first target language that a spelling names. -/
def get? (r : Resolution) (language : String) : Option Coverage :=
  (r.perLanguage.find? fun c => Language.same c.language language).map (·.coverage)

/-- The number of target languages in a state. -/
def count (r : Resolution) (state : CoverageState) : Nat :=
  r.perLanguage.countP fun c => c.coverage.state = state

end Resolution

end SubtitleCoverage
