import SubtitleCoverage.Json.Value

/-!
# Reading JSON

The grammar of JSON is read by a machine that takes one token at a time and remembers the arrays
and objects that are still open. It has no limit on their number.

## Main definitions

* `Frame` — an array or object that is still open, up to the value that comes next.
* `State`, `step` — what has to come next, and what a token does.
* `read` — the value of a text.
-/

namespace SubtitleCoverage.Json

open Text

/-- An array or an object up to one of its values, the latest of the parts before it first. A name
that is no text is `none`. -/
inductive Frame where
  | element (before : List Json)
  | member (before : List (Option String × Json)) (name : Option String)

/-- What has to come next, inside the open frames. -/
inductive State where
  /-- A value. -/
  | value (outer : List Frame)
  /-- The first element of an array, or its end. -/
  | firstElement (outer : List Frame)
  /-- A comma or the end of an array. -/
  | nextElement (before : List Json) (outer : List Frame)
  /-- The first name of an object, or its end. -/
  | firstName (outer : List Frame)
  /-- A name. -/
  | name (before : List (Option String × Json)) (outer : List Frame)
  /-- The colon after a name. -/
  | colon (before : List (Option String × Json)) (name : Option String) (outer : List Frame)
  /-- A comma or the end of an object. -/
  | nextMember (before : List (Option String × Json)) (outer : List Frame)
  /-- Nothing: the value is complete. -/
  | finished (j : Json)

/-- A value has come to its end. -/
def complete : List Frame → Json → State
  | [], j => .finished j
  | .element before :: outer, j => .nextElement (j :: before) outer
  | .member before name :: outer, j => .nextMember ((name, j) :: before) outer

/-- The members of an object, if all their names are texts. -/
def namedMembers (ms : List (Option String × Json)) : Option (List (String × Json)) :=
  ms.mapM fun m => m.1.map fun name => (name, m.2)

/-- The object with the given members, the latest first. -/
def objectOf (before : List (Option String × Json)) : Json :=
  match namedMembers before.reverse with
  | some ms => .obj ms
  | none => .garbled

/-- A token at the place of a value. -/
def beginValue (outer : List Frame) : Token → Option State
  | .openBracket => some (.firstElement outer)
  | .openBrace => some (.firstName outer)
  | .null => some (complete outer .null)
  | .true => some (complete outer (.bool true))
  | .false => some (complete outer (.bool false))
  | .num n => some (complete outer (.num n))
  | .str s => some (complete outer (.str s))
  | .garbled => some (complete outer .garbled)
  | .closeBrace | .closeBracket | .colon | .comma => none

/-- A token at the place of a name. -/
def beginMember (before : List (Option String × Json)) (outer : List Frame) : Token → Option State
  | .str s => some (.colon before (some s) outer)
  | .garbled => some (.colon before none outer)
  | _ => none

/-- What a token does. -/
def step : State → Token → Option State
  | .value outer, t => beginValue outer t
  | .firstElement outer, .closeBracket => some (complete outer (.arr []))
  | .firstElement outer, t => beginValue (.element [] :: outer) t
  | .nextElement before outer, .comma => some (.value (.element before :: outer))
  | .nextElement before outer, .closeBracket => some (complete outer (.arr before.reverse))
  | .firstName outer, .closeBrace => some (complete outer (.obj []))
  | .firstName outer, t => beginMember [] outer t
  | .name before outer, t => beginMember before outer t
  | .colon before name outer, .colon => some (.value (.member before name :: outer))
  | .nextMember before outer, .comma => some (.name before outer)
  | .nextMember before outer, .closeBrace => some (complete outer (objectOf before))
  | _, _ => none

/-- What tokens do, one after the other. -/
def steps (s : State) (ts : List Token) : Option State := ts.foldlM step s

/-- The value of a sequence of tokens. -/
def ofTokens (ts : List Token) : Option Json :=
  match steps (.value []) ts with
  | some (.finished j) => some j
  | _ => none

/-- The value of a text given by its bytes. -/
def read (bs : Bytes) : Option Json := (scan bs).bind ofTokens

/-- The value of a text. -/
def readText (s : String) : Option Json := read (utf8Bytes s)

end SubtitleCoverage.Json
