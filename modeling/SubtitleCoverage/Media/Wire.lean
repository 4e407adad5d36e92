import SubtitleCoverage.Json.Record
import SubtitleCoverage.Media.Basic

/-!
# Media records on the wire

How media units and sidecars are written in JSON and read from it. Of a unit only the number and
the title have to be there, of a sidecar nothing.

## Main definitions

* `MediaUnit.toJson`, `MediaUnit.ofJson?` and the same for the other records.
-/

namespace SubtitleCoverage

open Json

/-- A unit number in JSON. -/
def MediaUnitId.toJson (i : MediaUnitId) : Json := ofInt64 i.value

/-- The unit number of a JSON value. -/
def MediaUnitId.ofJson? (j : Json) : Option MediaUnitId := (asInt64? j).map .mk

/-- A profile number in JSON. -/
def ProfileId.toJson (i : ProfileId) : Json := ofInt64 i.value

/-- The profile number of a JSON value. -/
def ProfileId.ofJson? (j : Json) : Option ProfileId := (asInt64? j).map .mk

/-- A form of subtitles in JSON. -/
def SubtitleFormat.toJson (f : SubtitleFormat) : Json := .str f.name

/-- The form of subtitles of a JSON value. -/
def SubtitleFormat.ofJson? (j : Json) : Option SubtitleFormat := (asName? j).bind ofName?

/-- A form of sidecars in JSON. -/
def SidecarFormat.toJson (f : SidecarFormat) : Json := .str f.name

/-- The form of sidecars of a JSON value. -/
def SidecarFormat.ofJson? (j : Json) : Option SidecarFormat := (asName? j).bind ofName?

/-- A kind in JSON. -/
def MediaKind.toJson (k : MediaKind) : Json := .str k.name

/-- The kind of a JSON value. -/
def MediaKind.ofJson? (j : Json) : Option MediaKind := (asName? j).bind ofName?

/-- A status in JSON. -/
def MediaStatus.toJson (s : MediaStatus) : Json := .str s.name

/-- The status of a JSON value. -/
def MediaStatus.ofJson? (j : Json) : Option MediaStatus := (asName? j).bind ofName?

/-- A point in time in JSON. -/
def Timestamp.toJson (t : Timestamp) : Json := .str t.text

/-- The point in time of a JSON value. -/
def Timestamp.ofJson? (j : Json) : Option Timestamp := (asText? j).bind ofText?

namespace MediaUnit

/-- The names of the fields of a media unit. -/
def fieldNames : List String :=
  ["id", "title", "kind", "path", "season", "episode", "hasFile", "subtitles", "audioLanguages",
    "status", "addedAt"]

/-- A media unit in JSON. -/
def toJson (u : MediaUnit) : Json :=
  .obj [("id", u.id.toJson), ("title", .str u.title), ("kind", u.kind.toJson),
    ("path", ofOption .str u.path), ("season", ofOption ofInt32 u.season),
    ("episode", ofOption ofInt32 u.episode), ("hasFile", .bool u.hasFile),
    ("subtitles", ofMap SubtitleFormat.toJson u.subtitles),
    ("audioLanguages", ofSet u.audioLanguages), ("status", u.status.toJson),
    ("addedAt", ofOption Timestamp.toJson u.addedAt)]

/-- The media unit of a JSON value. -/
def ofJson? (j : Json) : Option MediaUnit := do
  let r ← fields? fieldNames j
  return {
    id := ← r.required "id" MediaUnitId.ofJson?
    title := ← r.required "title" asText?
    kind := ← r.withDefault "kind" .episode MediaKind.ofJson?
    path := ← r.withDefault "path" none (asOption? asText?)
    season := ← r.withDefault "season" none (asOption? asInt32?)
    episode := ← r.withDefault "episode" none (asOption? asInt32?)
    hasFile := ← r.withDefault "hasFile" false asBool?
    subtitles := ← r.withDefault "subtitles" .empty (asMap? SubtitleFormat.ofJson?)
    audioLanguages := ← r.withDefault "audioLanguages" .empty asSet?
    status := ← r.withDefault "status" .monitored MediaStatus.ofJson?
    addedAt := ← r.withDefault "addedAt" none (asOption? Timestamp.ofJson?) }

end MediaUnit

namespace Sidecar

/-- The names of the fields of a sidecar. -/
def fieldNames : List String := ["path", "language", "format", "mediaUnitId"]

/-- A sidecar in JSON. -/
def toJson (s : Sidecar) : Json :=
  .obj [("path", .str s.path), ("language", .str s.language), ("format", .str s.format),
    ("mediaUnitId", ofOption MediaUnitId.toJson s.mediaUnitId)]

/-- The sidecar of a JSON value. -/
def ofJson? (j : Json) : Option Sidecar := do
  let r ← fields? fieldNames j
  return {
    path := ← r.withDefault "path" "" asText?
    language := ← r.withDefault "language" "" asText?
    format := ← r.withDefault "format" "" asText?
    mediaUnitId := ← r.withDefault "mediaUnitId" none (asOption? MediaUnitId.ofJson?) }

end Sidecar

end SubtitleCoverage
