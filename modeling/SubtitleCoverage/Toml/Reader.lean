import SubtitleCoverage.Toml.Scalar
import SubtitleCoverage.Toml.Table

/-!
# Reading TOML

A TOML document is read as a tree of the kind that JSON has: tables are objects, and what has no
counterpart there is something that no record reads. Arrays and inline tables must not be nested too
deeply, and keys must not have too many dots.

## Main definitions

* `readValue` — a value.
* `readDocument` — the lines of a document.
* `read` — the tree of a document.
-/

namespace SubtitleCoverage.Toml

/-- The first depth of nesting, and the first number of dotted keys, that is too much. -/
def nestingLimit : Nat := 80

/-- The path and the last of some keys. -/
def splitLast (keys : List String) : Option (List String × String) :=
  keys.getLast?.map fun key => (keys.dropLast, key)

mutual

/-- A value inside `depth` arrays and inline tables. -/
def readValue : Nat → Nat → List Char → Option (Json × List Char)
  | 0, _, _ => none
  | fuel + 1, depth, cs =>
    match cs with
    | '[' :: cs =>
      if nestingLimit ≤ depth + 1 then none
      else
        match skipFiller false cs with
        | ']' :: cs => some (.arr [], cs)
        | cs => readElements fuel (depth + 1) [] cs
    | '\x7b' :: cs =>
      if nestingLimit ≤ depth + 1 then none
      else
        match skipBlanks cs with
        | '\x7d' :: cs => some (.obj [], cs)
        | cs => readPairs fuel (depth + 1) {} cs
    | 't' :: 'r' :: 'u' :: 'e' :: cs => some (.bool true, cs)
    | 'f' :: 'a' :: 'l' :: 's' :: 'e' :: cs => some (.bool false, cs)
    | 'i' :: 'n' :: 'f' :: cs => some (.garbled, cs)
    | 'n' :: 'a' :: 'n' :: cs => some (.garbled, cs)
    | c :: _ =>
      if c = '"' ∨ c = '\'' then
        (readString cs).map fun (s, rest) => (.str (String.ofList s), rest)
      else readScalar cs
    | [] => none

/-- The elements of an array after those in `before`, the latest of which comes first, and the end
of the array. -/
def readElements : Nat → Nat → List Json → List Char → Option (Json × List Char)
  | 0, _, _, _ => none
  | fuel + 1, depth, before, cs => do
    let (value, cs) ← readValue fuel depth cs
    match skipFiller false cs with
    | ']' :: cs => return (.arr (value :: before).reverse, cs)
    | ',' :: cs =>
      match skipFiller false cs with
      | ']' :: cs => return (.arr (value :: before).reverse, cs)
      | cs => readElements fuel depth (value :: before) cs
    | _ => none

/-- The pairs of an inline table after those in `t`, and the end of the table. -/
def readPairs : Nat → Nat → Table Node → List Char → Option (Json × List Char)
  | 0, _, _, _ => none
  | fuel + 1, depth, t, cs => do
    let (keys, cs) ← readKeys (nestingLimit - 1) cs
    let (path, key) ← splitLast keys
    let (value, cs) ← readValue fuel depth (skipBlanks (← expect '=' cs))
    let t ← assignIn path key value t
    match skipBlanks cs with
    | '\x7d' :: cs => return (t.toJson, cs)
    | ',' :: cs => readPairs fuel depth t cs
    | _ => none

end

/-- A header after its first bracket, and the end of its line. -/
def readHeader (cs : List Char) : Option (Header × List Char) := do
  let (isElement, cs) := match cs with
    | '[' :: cs => (true, cs)
    | cs => (false, cs)
  let (keys, cs) ← readKeys (nestingLimit - 1) cs
  let (path, key) ← splitLast keys
  let cs ← expect ']' cs
  let cs ← if isElement then expect ']' cs else some cs
  return (⟨path, key, isElement⟩, ← endLine cs)

/-- A key with its value, and the end of its line. -/
def readAssignment (cs : List Char) : Option (List String × String × Json × List Char) := do
  let (keys, cs) ← readKeys (nestingLimit - 1) cs
  let (path, key) ← splitLast keys
  let (value, cs) ← readValue (cs.length + 1) 0 (skipBlanks (← expect '=' cs))
  return (path, key, value, ← endLine cs)

/-- The lines of a document, after those that have been read. -/
def readDocument : Nat → Draft → List Char → Option (Table Node)
  | 0, _, _ => none
  | fuel + 1, d, cs =>
    match skipBlanks cs with
    | [] => d.close
    | '#' :: cs => do readDocument fuel d (← skipLineEnd (skipComment ('#' :: cs)))
    | '\n' :: cs => readDocument fuel d cs
    | '\r' :: cs => do readDocument fuel d (← expect '\n' cs)
    | '[' :: cs => do
      let (h, cs) ← readHeader cs
      readDocument fuel (← d.open? h) cs
    | cs => do
      let (path, key, value, cs) ← readAssignment cs
      readDocument fuel (← d.assign path key value) cs

/-- The characters after a byte order mark, if there is one. -/
def skipMark : List Char → List Char
  | '\uFEFF' :: cs => cs
  | cs => cs

/-- The tree of a document. -/
def read (s : String) : Option Json :=
  let cs := skipMark s.toList
  (readDocument (cs.length + 1) {} cs).map Table.toJson

end SubtitleCoverage.Toml
