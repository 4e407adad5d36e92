import SubtitleCoverage.Json.Value
import SubtitleCoverage.OrderedMap

/-!
# Records in JSON

A record is written as an object with a member per field, and read from such an object or from an
array of its fields in order. Members that are no fields are passed over; a field that is there
twice is an error. Whether a field that is not there has a default is up to the field.

## Main definitions

* `Slot` — what a record says about one field.
* `fields?`, `leadingFields?` — the slots of a record.
* `Fields.required`, `Fields.withDefault`, `Fields.optional` — the value of a field.
* `asText?`, `asInt64?`, `asList?`, `asOption?`, `asName?`, `asKeptName?` — values of the other
  shapes.
-/

namespace SubtitleCoverage.Json

/-! ### Fields -/

/-- What a record says about one field. -/
inductive Slot where
  | given (j : Json)
  /-- An object has no member of the name. -/
  | absent
  /-- An array ends before the field. -/
  | pastEnd

/-- The slots of a record, by the name of the field. -/
abbrev Fields := String → Slot

/-- The slot of a name among the members of an object. -/
def memberSlot (ms : List (String × Json)) (name : String) : Slot :=
  match ms.find? fun m => m.1 == name with
  | some m => .given m.2
  | none => .absent

/-- The slot of a name among elements that belong to the names in order. -/
def elementSlot : List String → List Json → String → Slot
  | n :: ns, x :: xs, name => if n = name then .given x else elementSlot ns xs name
  | _, _, _ => .pastEnd

/-- The slots of a record with the given names of fields. -/
def fields? (names : List String) : Json → Option Fields
  | .obj ms =>
    if names.all fun n => ms.countP (fun m => m.1 == n) ≤ 1 then some (memberSlot ms) else none
  | .arr xs => if xs.length ≤ names.length then some (elementSlot names xs) else none
  | _ => none

/-- The slots of a record in a format where arrays may go on after the last field. -/
def leadingFields? (names : List String) : Json → Option Fields
  | .arr xs => fields? names (.arr (xs.take names.length))
  | j => fields? names j

variable {α : Type}

/-- The value of a field that has to be there. -/
def Fields.required (r : Fields) (name : String) (decode : Json → Option α) : Option α :=
  match r name with
  | .given j => decode j
  | .absent | .pastEnd => none

/-- The value of a field that has a default. -/
def Fields.withDefault (r : Fields) (name : String) (default : α) (decode : Json → Option α) :
    Option α :=
  match r name with
  | .given j => decode j
  | .absent | .pastEnd => some default

/-- A value that may be `null`. -/
def asOption? (decode : Json → Option α) : Json → Option (Option α)
  | .null => some none
  | j => (decode j).map some

/-- The value of a field that an object may leave out. -/
def Fields.optional (r : Fields) (name : String) (decode : Json → Option α) :
    Option (Option α) :=
  match r name with
  | .given j => asOption? decode j
  | .absent => some none
  | .pastEnd => none

/-! ### Other shapes -/

/-- A text. -/
def asText? : Json → Option String
  | .str s => some s
  | _ => none

/-- A truth value. -/
def asBool? : Json → Option Bool
  | .bool b => some b
  | _ => none

/-- A whole number. -/
def asInt? : Json → Option Int
  | .num (.int n) => some n
  | _ => none

/-- A 64-bit signed number. -/
def asInt64? (j : Json) : Option Int64 := do
  let n ← asInt? j
  if Int64.minValue.toInt ≤ n ∧ n ≤ Int64.maxValue.toInt then some (Int64.ofInt n) else none

/-- A 32-bit signed number. -/
def asInt32? (j : Json) : Option Int32 := do
  let n ← asInt? j
  if Int32.minValue.toInt ≤ n ∧ n ≤ Int32.maxValue.toInt then some (Int32.ofInt n) else none

/-- A 64-bit unsigned number. -/
def asUInt64? (j : Json) : Option UInt64 := do
  let n ← asInt? j
  if 0 ≤ n ∧ n.toNat < UInt64.size then some (UInt64.ofNat n.toNat) else none

/-- A 32-bit unsigned number. -/
def asUInt32? (j : Json) : Option UInt32 := do
  let n ← asInt? j
  if 0 ≤ n ∧ n.toNat < UInt32.size then some (UInt32.ofNat n.toNat) else none

/-- A list. -/
def asList? (decode : Json → Option α) : Json → Option (List α)
  | .arr xs => xs.mapM decode
  | _ => none

/-- A map from texts; of two members with one name the later counts. -/
def asMap? (decode : Json → Option α) : Json → Option (OrderedMap String α)
  | .obj ms => (ms.mapM fun m => (decode m.2).map fun a => (m.1, a)).map OrderedMap.ofList
  | _ => none

/-- A set of texts. -/
def asSet? (j : Json) : Option (OrderedSet String) := (asList? asText? j).map OrderedSet.ofList

/-- A name out of a fixed choice: a string, or an object that gives `null` to the name. -/
def asName? : Json → Option String
  | .str s => some s
  | .obj [(s, .null)] => some s
  | _ => none

/-- A name out of a fixed choice that was kept as a tree until the choice was known: an object may
then give nothing to the name in place of `null`. -/
def asKeptName? : Json → Option String
  | .obj [(s, .obj [])] => some s
  | j => asName? j

/-- The tree of a 64-bit signed number. -/
def ofInt64 (n : Int64) : Json := ofInt n.toInt

/-- The tree of a 32-bit signed number. -/
def ofInt32 (n : Int32) : Json := ofInt n.toInt

/-- The tree of a 64-bit unsigned number. -/
def ofUInt64 (n : UInt64) : Json := ofInt n.toNat

/-- The tree of a 32-bit unsigned number. -/
def ofUInt32 (n : UInt32) : Json := ofInt n.toNat

/-- The tree of a value that may be missing. -/
def ofOption (encode : α → Json) : Option α → Json
  | none => .null
  | some a => encode a

/-- The tree of a list. -/
def ofList (encode : α → Json) (xs : List α) : Json := .arr (xs.map encode)

/-- The tree of a map from texts. -/
def ofMap (encode : α → Json) (m : OrderedMap String α) : Json :=
  .obj (m.entries.map fun e => (e.1, encode e.2))

/-- The tree of a set of texts. -/
def ofSet (s : OrderedSet String) : Json := .arr (s.keys.map .str)

end SubtitleCoverage.Json
