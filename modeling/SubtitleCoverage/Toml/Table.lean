import SubtitleCoverage.Json.Value

/-!
# Tables of a TOML document

A document is a tree of tables that is filled in as it is read. A table can be defined only once,
but how it came into being decides what may still be added to it: a table named by a header is
closed to dotted keys, a table made by dotted keys is closed to headers, and a table that only
lies on the way to another one may still get a header of its own.

## Main definitions

* `Origin`, `Table`, `Node` — the tree.
* `descend` — changes a table at the end of a path.
* `Draft` — a document of which a part has been read, with `assign` and `open?`.
-/

namespace SubtitleCoverage.Toml

/-- How a table came into being. -/
inductive Origin where
  /-- It has a header, is an element of an array, or is the document itself. -/
  | header
  /-- It lies on the way to a table with a header. -/
  | passed
  /-- It lies on the way to a key, between the dots. -/
  | dotted
deriving DecidableEq, Repr

/-- A table. -/
structure Table (ν : Type) where
  origin : Origin := .header
  entries : List (String × ν) := []

/-- What a key of a table stands for. -/
inductive Node where
  | leaf (j : Json)
  | table (t : Table Node)
  /-- An array of tables, each with its own header; the last one first. -/
  | tables (last : Table Node) (before : List (Table Node))

namespace Table

/-- What a key stands for. -/
def find? (t : Table Node) (key : String) : Option Node := t.entries.lookup key

/-- The table with a key that stands for something else. -/
def set (t : Table Node) (key : String) (n : Node) : Table Node :=
  { t with entries := t.entries.filter (fun e => e.1 != key) ++ [(key, n)] }

/-- The table without a key. -/
def remove (t : Table Node) (key : String) : Table Node :=
  { t with entries := t.entries.filter fun e => e.1 != key }

end Table

/-- Changes the table at the end of a path, making the tables on the way that are not there. A path
between dots must not lead through a table that has a header. -/
def descend {α : Type} (dotted : Bool) (change : Table Node → Option (α × Table Node)) :
    List String → Table Node → Option (α × Table Node)
  | [], t => change t
  | key :: path, t => do
    match t.find? key with
    | none =>
      let (a, child) ← descend dotted change path ⟨if dotted then .dotted else .passed, []⟩
      return (a, t.set key (.table child))
    | some (.leaf _) => none
    | some (.table child) =>
      guard !(dotted && child.origin = .header)
      let (a, child) ← descend dotted change path child
      return (a, t.set key (.table child))
    | some (.tables last before) =>
      let (a, last) ← descend dotted change path last
      return (a, t.set key (.tables last before))

/-- Lets a key that is not there stand for something. -/
def addKey (dotted : Bool) (key : String) (n : Node) (t : Table Node) :
    Option (Unit × Table Node) :=
  if (t.find? key).isSome || (t.origin = .dotted) != dotted then none else some ((), t.set key n)

/-- Lets the key at the end of a path between dots have a value. -/
def assignIn (path : List String) (key : String) (value : Json) (t : Table Node) :
    Option (Table Node) :=
  (descend true (addKey (path ≠ []) key (.leaf value)) path t).map (·.2)

mutual

/-- The tree of what a key stands for. -/
def Node.toJson : Node → Json
  | .leaf j => j
  | .table ⟨_, es⟩ => .obj (entriesToJson es)
  | .tables ⟨_, es⟩ before => .arr (tablesToJson before [.obj (entriesToJson es)])

/-- The trees of the entries of a table. -/
def entriesToJson : List (String × Node) → List (String × Json)
  | [] => []
  | (key, n) :: es => (key, n.toJson) :: entriesToJson es

/-- The trees of some tables, the last one first, before those of later ones. -/
def tablesToJson : List (Table Node) → List Json → List Json
  | [], later => later
  | ⟨_, es⟩ :: before, later => tablesToJson before (.obj (entriesToJson es) :: later)

end

/-- The tree of a table. -/
def Table.toJson (t : Table Node) : Json := .obj (entriesToJson t.entries)

/-! ### Documents -/

/-- A header: the path of a table, its key, and whether the table is an element of an array. -/
structure Header where
  path : List String
  key : String
  isElement : Bool

/-- A document of which a part has been read: the tables that are complete, and the one that is
being read with its header. -/
structure Draft where
  root : Table Node := {}
  current : Table Node := {}
  header : Option Header := none

namespace Draft

/-- Lets a key of the current table have a value. -/
def assign (d : Draft) (path : List String) (key : String) (value : Json) : Option Draft :=
  (assignIn path key value d.current).map fun current => { d with current }

/-- Puts a table at its place. -/
def place (h : Header) (t parent : Table Node) : Option (Unit × Table Node) :=
  match parent.find? h.key, h.isElement with
  | none, true => some ((), parent.set h.key (.tables t []))
  | some (.tables last before), true => some ((), parent.set h.key (.tables t (last :: before)))
  | none, false => some ((), parent.set h.key (.table t))
  | _, _ => none

/-- The document with the current table at its place. -/
def close (d : Draft) : Option (Table Node) :=
  match d.header with
  | none => some d.current
  | some h => (descend false (place h d.current) h.path d.root).map (·.2)

/-- Takes up the table that a header names: a new one, or one that has been passed. -/
def takeUp (h : Header) (parent : Table Node) : Option (Table Node × Table Node) :=
  match parent.find? h.key, h.isElement with
  | none, _ | some (.tables ..), true => some ({}, parent)
  | some (.table t), false =>
    -- What lies on the way to other tables stays in the table.
    if t.origin = .passed then some ({ t with origin := .header }, parent.remove h.key) else none
  | _, _ => none

/-- Goes on with the table that a header names. -/
def open? (d : Draft) (h : Header) : Option Draft := do
  let root ← d.close
  let (current, root) ← descend false (takeUp h) h.path root
  return ⟨root, current, some h⟩

end Draft

end SubtitleCoverage.Toml
