import SubtitleCoverage.Backend.Call
import SubtitleCoverage.Jobs.Event
import SubtitleCoverage.Profile.Wire

/-!
# Calls on the wire

How the parts of calls and of their answers are written in JSON and read from it. Conditions that
are not set and parts that are not there are left out.

## Main definitions

* `Page.toJson`, `MediaFilters.toJson` and the same for the other records, with their readers.
-/

namespace SubtitleCoverage

open Json

/-- A member that is left out if there is no value. -/
def memberIfSome {α : Type} (name : String) (encode : α → Json) :
    Option α → List (String × Json)
  | none => []
  | some a => [(name, encode a)]

/-- A page in JSON. -/
def Page.toJson {α : Type} (encode : α → Json) (p : Page α) : Json :=
  .obj [("data", ofList encode p.data), ("total", ofUInt64 p.total), ("page", ofUInt32 p.page),
    ("totalPages", ofUInt32 p.totalPages)]

/-- The page of a JSON value. -/
def Page.ofJson? {α : Type} (decode : Json → Option α) (j : Json) : Option (Page α) := do
  let r ← fields? ["data", "total", "page", "totalPages"] j
  return {
    data := ← r.required "data" (asList? decode)
    total := ← r.required "total" asUInt64?
    page := ← r.required "page" asUInt32?
    totalPages := ← r.required "totalPages" asUInt32? }

/-- Conditions in JSON. -/
def MediaFilters.toJson (f : MediaFilters) : Json :=
  .obj (memberIfSome "hasFile" .bool f.hasFile ++
    memberIfSome "status" MediaStatus.toJson f.status ++
    memberIfSome "seriesId" ofInt64 f.seriesId)

/-- The conditions of a JSON value. -/
def MediaFilters.ofJson? (j : Json) : Option MediaFilters := do
  let r ← fields? ["hasFile", "status", "seriesId"] j
  return {
    hasFile := ← r.optional "hasFile" asBool?
    status := ← r.optional "status" MediaStatus.ofJson?
    seriesId := ← r.optional "seriesId" asInt64? }

/-- An entry in JSON. -/
def BlacklistEntry.toJson (e : BlacklistEntry) : Json :=
  .obj ([("providerName", .str e.providerName), ("subtitleId", .str e.subtitleId),
    ("language", .str e.language)] ++ memberIfSome "mediaUnitId" MediaUnitId.toJson e.mediaUnitId ++
    memberIfSome "filePath" .str e.filePath)

/-- The entry of a JSON value. -/
def BlacklistEntry.ofJson? (j : Json) : Option BlacklistEntry := do
  let r ← fields? ["providerName", "subtitleId", "language", "mediaUnitId", "filePath"] j
  return {
    providerName := ← r.required "providerName" asText?
    subtitleId := ← r.required "subtitleId" asText?
    language := ← r.required "language" asText?
    mediaUnitId := ← r.withDefault "mediaUnitId" none (asOption? MediaUnitId.ofJson?)
    filePath := ← r.withDefault "filePath" none (asOption? asText?) }

/-- An item in JSON. -/
def BatchItem.toJson (i : BatchItem) : Json :=
  .obj [("mediaUnitId", i.mediaUnitId.toJson), ("language", .str i.language)]

/-- The item of a JSON value. -/
def BatchItem.ofJson? (j : Json) : Option BatchItem := do
  let r ← fields? ["mediaUnitId", "language"] j
  return {
    mediaUnitId := ← r.required "mediaUnitId" MediaUnitId.ofJson?
    language := ← r.required "language" asText? }

/-- A batch in JSON. -/
def BatchStarted.toJson (b : BatchStarted) : Json :=
  .obj [("jobId", b.job.toJson), ("totalItems", ofUInt64 b.totalItems)]

/-- The batch of a JSON value. -/
def BatchStarted.ofJson? (j : Json) : Option BatchStarted := do
  let r ← fields? ["jobId", "totalItems"] j
  return {
    job := ← r.required "jobId" JobId.ofJson?
    totalItems := ← r.required "totalItems" asUInt64? }

end SubtitleCoverage
