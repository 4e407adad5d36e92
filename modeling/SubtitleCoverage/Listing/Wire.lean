import SubtitleCoverage.Listing.Page
import SubtitleCoverage.Listing.Query
import SubtitleCoverage.Media.Wire

/-!
# Queries on the wire

How filters, sort orders and queries are written in JSON and read from it.

## Main definitions

* `Filter.toJson`, `Filter.ofJson?` and the same for the other records.
-/

namespace SubtitleCoverage

open Json

namespace Filter

/-- The name of what a filter looks at. -/
def fieldName : Filter → String
  | .hasFile _ => "has_file"
  | .status _ => "status"
  | .kind _ => "kind"
  | .season _ => "season"
  | .audioLanguage _ => "audio_language"

/-- What a filter wants, in JSON. -/
def valueToJson : Filter → Json
  | .hasFile b => .bool b
  | .status s => s.toJson
  | .kind k => k.toJson
  | .season n => ofInt32 n
  | .audioLanguage l => .str l

/-- A filter in JSON. -/
def toJson (f : Filter) : Json := .obj [("field", .str f.fieldName), ("value", f.valueToJson)]

/-- The filter that wants `value` of the field with a name, where `asChoice?` reads names out of a
fixed choice. -/
def ofParts? (asChoice? : Json → Option String) (field : String) (value : Json) : Option Filter :=
  match field with
  | "has_file" => (asBool? value).map .hasFile
  | "status" => ((asChoice? value).bind MediaStatus.ofName?).map .status
  | "kind" => ((asChoice? value).bind MediaKind.ofName?).map .kind
  | "season" => (asInt32? value).map .season
  | "audio_language" => (asText? value).map .audioLanguage
  | _ => none

/-- Whether an object gives the wanted value before it names the field, so that the value has to be
kept until its meaning is known. -/
def givesValueFirst : Json → Bool
  | .obj ms => (ms.find? fun m => m.1 == "field" || m.1 == "value").any fun m => m.1 == "value"
  | _ => false

/-- How a filter of the given shape names its field: an array does it by a plain text only. -/
def asField? : Json → Json → Option String
  | .arr _ => asText?
  | _ => asName?

/-- The filter of a JSON value. -/
def ofJson? (j : Json) : Option Filter := do
  let r ← fields? ["field", "value"] j
  let asChoice? := if givesValueFirst j then asKeptName? else asName?
  ofParts? asChoice? (← r.required "field" (asField? j)) (← r.required "value" some)

end Filter

/-- A sort key in JSON. -/
def SortKey.toJson (k : SortKey) : Json := .str k.name

/-- The sort key of a JSON value. -/
def SortKey.ofJson? (j : Json) : Option SortKey := (asName? j).bind ofName?

/-- A sort order in JSON. -/
def SortSpec.toJson (s : SortSpec) : Json :=
  .obj [("key", s.key.toJson), ("descending", .bool s.descending)]

/-- The sort order of a JSON value. -/
def SortSpec.ofJson? (j : Json) : Option SortSpec := do
  let r ← fields? ["key", "descending"] j
  return {
    key := ← r.required "key" SortKey.ofJson?
    descending := ← r.withDefault "descending" false asBool? }

/-- A query in JSON. -/
def ListQuery.toJson (q : ListQuery) : Json :=
  .obj [("filters", ofList Filter.toJson q.filters), ("sort", q.sort.toJson),
    ("search", .str q.search)]

/-- The query of a JSON value. -/
def ListQuery.ofJson? (j : Json) : Option ListQuery := do
  let r ← fields? ["filters", "sort", "search"] j
  return {
    filters := ← r.withDefault "filters" [] (asList? Filter.ofJson?)
    sort := ← r.withDefault "sort" {} SortSpec.ofJson?
    search := ← r.withDefault "search" "" asText? }

/-- The place of the current page in JSON. -/
def PageInfo.toJson (p : PageInfo) : Json :=
  .obj [("page", ofUInt64 p.page), ("pageCount", ofUInt64 p.pageCount),
    ("pageSize", ofUInt64 p.pageSize), ("total", ofUInt64 p.total)]

end SubtitleCoverage
