import SubtitleCoverage.Json.Token

/-!
# JSON values

A JSON text stands for a tree. An object keeps its members in the order in which they were
written, names repeated included: which of two members with one name counts is decided by whoever
reads the object.

## Main definitions

* `Json` — the trees. A subtree that cannot be read, but can be passed over, is `garbled`.
* `Json.isPlain`, `Json.depth`, `Json.fits` — what a tree needs to be kept as a whole.
* `Json.collapse` — the tree with the last of several members of one name.
-/

namespace SubtitleCoverage

/-- A JSON value. -/
inductive Json where
  | null
  | bool (b : Bool)
  | num (n : Json.Numeral)
  | str (s : String)
  | arr (elements : List Json)
  | obj (members : List (String × Json))
  /-- A string that is no text, or an object with such a name. -/
  | garbled
deriving Repr, Inhabited

namespace Json

/-! ### Keeping a whole tree -/

mutual

/-- Whether a tree holds texts and finite numbers only. -/
def isPlain : Json → Bool
  | .num n => n.isFinite
  | .arr xs => allPlain xs
  | .obj ms => allPlainMembers ms
  | .garbled => false
  | _ => true

/-- Whether all trees of a list are plain. -/
def allPlain : List Json → Bool
  | [] => true
  | x :: xs => isPlain x && allPlain xs

/-- Whether the values of all members are plain. -/
def allPlainMembers : List (String × Json) → Bool
  | [] => true
  | (_, x) :: ms => isPlain x && allPlainMembers ms

end

mutual

/-- How many arrays and objects stand inside one another. -/
def depth : Json → Nat
  | .arr xs => depthAll xs + 1
  | .obj ms => depthMembers ms + 1
  | _ => 0

/-- The depth of the deepest tree of a list. -/
def depthAll : List Json → Nat
  | [] => 0
  | x :: xs => max (depth x) (depthAll xs)

/-- The depth of the deepest value of some members. -/
def depthMembers : List (String × Json) → Nat
  | [] => 0
  | (_, x) :: ms => max (depth x) (depthMembers ms)

end

/-- Whether a tree can be kept as a whole where `levels` more levels are allowed. -/
def fits (levels : Nat) (j : Json) : Bool := isPlain j && depth j ≤ levels

/-! ### Members of one name -/


mutual

/-- The tree in which, of several members with one name, only the last is left. -/
def collapse : Json → Json
  | .arr xs => .arr (collapseAll xs)
  | .obj ms => .obj (collapseMembers ms)
  | j => j

/-- Collapses all trees of a list. -/
def collapseAll : List Json → List Json
  | [] => []
  | x :: xs => collapse x :: collapseAll xs

/-- Collapses the values of members and keeps the last of each name. -/
def collapseMembers : List (String × Json) → List (String × Json)
  | [] => []
  | (name, x) :: ms =>
    let rest := collapseMembers ms
    if rest.any fun m => m.1 == name then rest else (name, collapse x) :: rest

end

/-- The value of the first member with a name. -/
def member? (name : String) : Json → Option Json
  | .obj ms => (ms.find? fun m => m.1 == name).map (·.2)
  | _ => none

/-- The tree of a whole number. -/
def ofInt (n : Int) : Json := .num (.int n)

end Json

end SubtitleCoverage
