import SubtitleCoverage.Fault
import SubtitleCoverage.Media.Basic
import SubtitleCoverage.Text.Collation

/-!
# Queries on a list of media units

A query keeps the units that pass all its filters and contain its search text, and sorts them by one
key. Units with equal keys stay in the order in which they came; units without a key come last,
whatever the direction.

## Main definitions

* `Filter`, `MediaUnit.passes` — conditions on a unit.
* `SortKey`, `SortSpec`, `MediaUnit.sortValue` — what units are sorted by.
* `ListQuery`, `ListQuery.apply` — queries and their results.
-/

namespace SubtitleCoverage

open Text

/-! ### Filters -/

/-- A condition on a unit. -/
inductive Filter where
  | hasFile (hasFile : Bool)
  | status (status : MediaStatus)
  | kind (kind : MediaKind)
  | season (season : Int32)
  /-- An audio track in the language, whatever its spelling. -/
  | audioLanguage (language : String)
deriving DecidableEq, Repr

/-- Whether a unit passes a filter. -/
def MediaUnit.passes (u : MediaUnit) : Filter → Bool
  | .hasFile b => u.hasFile == b
  | .status s => u.status == s
  | .kind k => u.kind == k
  | .season n => u.season == some n
  | .audioLanguage l => u.audioLanguages.keys.any fun a => Language.same (trim a) (trim l)

/-! ### Search -/

/-- Whether some characters stand within others, in one piece. -/
def containsChars (needle : List Char) : List Char → Bool
  | [] => needle.isEmpty
  | c :: cs => needle.isPrefixOf (c :: cs) || containsChars needle cs

/-- The texts of a unit in which a search looks. -/
def MediaUnit.searchFields (u : MediaUnit) : List String := u.title :: u.path.toList

/-- What is sought for a search text: the text without the blanks around it, in lower case. -/
def searchNeedle (text : String) : List Char := lowerChars (trimChars text.toList)

/-- Whether a unit contains a search text, in any letter case. A blank text is in every unit. -/
def MediaUnit.contains (u : MediaUnit) (text : String) : Bool :=
  let needle := searchNeedle text
  needle.isEmpty || u.searchFields.any fun f => containsChars needle (lowerChars f.toList)

/-! ### Sort keys -/

/-- What units can be sorted by. -/
inductive SortKey where
  | title
  | path
  | season
  | episode
  | status
  | addedAt
deriving DecidableEq, Repr, Inhabited

namespace SortKey

/-- All keys. -/
def all : List SortKey := [.title, .path, .season, .episode, .status, .addedAt]

/-- The name of a key. -/
def name : SortKey → String
  | .title => "title"
  | .path => "path"
  | .season => "season"
  | .episode => "episode"
  | .status => "status"
  | .addedAt => "added_at"

/-- The key with a name. -/
def ofName? : String → Option SortKey
  | "title" => some .title
  | "path" => some .path
  | "season" => some .season
  | "episode" => some .episode
  | "status" => some .status
  | "added_at" => some .addedAt
  | _ => none

/-- The key that a user means: a name or one of some other names, in any letter case, with hyphens
or underscores, and blanks around it. -/
def ofText (s : String) : Except Refusal SortKey :=
  let folded := lowerChars (trimChars s.toList)
  let word := String.ofList (folded.map fun c => if c = '-' then '_' else c)
  match word with
  | "name" => .ok .title
  | "added" | "date_added" => .ok .addedAt
  | _ =>
    match ofName? word with
    | some key => .ok key
    | none => .error (.unknownSortKey word)

end SortKey

/-- A sort key and a direction. -/
structure SortSpec where
  key : SortKey := .title
  descending : Bool := false
deriving DecidableEq, Repr, Inhabited

/-- What a unit is sorted by: a text, compared by its collation key, or a number. -/
inductive SortValue where
  | text (s : String)
  | number (n : Int)
deriving DecidableEq, Repr

/-- The value of a unit for a sort key, if it has one. -/
def MediaUnit.sortValue (u : MediaUnit) : SortKey → Option SortValue
  | .title => some (.text u.title)
  | .path => u.path.map .text
  | .season => u.season.map fun n => .number n.toInt
  | .episode => u.episode.map fun n => .number n.toInt
  | .status => some (.text u.status.name)
  | .addedAt => u.addedAt.map fun t => .number t.millis

/-- The value that is compared. -/
def SortValue.collated : SortValue → SortValue
  | .text s => .text (collationKey s)
  | .number n => .number n

/-- Whether the first value is not greater than the second. Values of two kinds are not told
apart; a sort key has only one kind. -/
def SortValue.le : SortValue → SortValue → Bool
  | .text a, .text b => !decide (b < a)
  | .number a, .number b => decide (a ≤ b)
  | _, _ => true

/-- Whether the first of two compared values may stand before the second. -/
def mayPrecede (descending : Bool) : Option SortValue → Option SortValue → Bool
  | some a, some b => if descending then b.le a else a.le b
  | some _, none => true
  | none, some _ => false
  | none, none => true

/-! ### Queries -/

/-- A query on a list of units. -/
structure ListQuery where
  filters : List Filter := []
  sort : SortSpec := {}
  search : String := ""
deriving DecidableEq, Repr

namespace ListQuery

/-- Whether a unit is in the result. -/
def keeps (q : ListQuery) (u : MediaUnit) : Bool := q.filters.all u.passes && u.contains q.search

/-- The units in their order: sorted by their values, those with equal values as they came. -/
def arrange (s : SortSpec) (us : List MediaUnit) : List MediaUnit :=
  let ranked := us.map fun u => ((u.sortValue s.key).map SortValue.collated, u)
  (ranked.mergeSort fun a b => mayPrecede s.descending a.1 b.1).map (·.2)

/-- The result of a query, in order. -/
def apply (q : ListQuery) (us : List MediaUnit) : List MediaUnit :=
  arrange q.sort (us.filter q.keeps)

end ListQuery

end SubtitleCoverage
