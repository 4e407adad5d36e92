import SubtitleCoverage.OrderedMap

/-!
# Selected rows

Rows are selected in scopes that know nothing of each other. In a scope a row is toggled on its
own, or with all rows between it and the row toggled before. What is selected stays so when it is
no longer shown, but only rows that are shown are ever handed on.

## Main definitions

* `ScopeSelection` — what is selected in one scope.
* `SelectionStore` — the scopes, with `toggle`, `selectAll` and `clear`.
* `SelectionStore.selectedVisible` — the rows shown that are selected.
-/

namespace SubtitleCoverage

variable {κ : Type} [KeyOrder κ]

/-- What is selected in one scope. -/
structure ScopeSelection (κ : Type) [KeyOrder κ] where
  selected : OrderedSet κ := .empty
  /-- The place among the rows shown of the row toggled last. -/
  anchor : Option Nat := none

namespace ScopeSelection

/-- The ids shown at the places from `a` to `b` or from `b` to `a`, as far as there are some. -/
def span (visible : List κ) (a b : Nat) : List κ :=
  (visible.drop (min a b)).take (max a b - min a b + 1)

/-- Toggles the row shown at a place. -/
def toggle (s : ScopeSelection κ) (id : κ) (place : Nat) (range : Bool) (visible : List κ) :
    ScopeSelection κ :=
  let selected :=
    match s.anchor, range with
    | some a, true => (span visible a place).foldl (fun m k => m.insert k ()) s.selected
    | _, _ => if s.selected.contains id then s.selected.erase id else s.selected.insert id ()
  ⟨selected, some place⟩

end ScopeSelection

/-- What is selected in every scope. -/
structure SelectionStore (κ : Type) [KeyOrder κ] where
  scopes : OrderedMap String (ScopeSelection κ) := .empty

namespace SelectionStore

/-- The store in which nothing is selected. -/
def empty : SelectionStore κ := {}

/-- What is selected in a scope. -/
def scope (s : SelectionStore κ) (name : String) : ScopeSelection κ :=
  (s.scopes.get? name).getD {}

/-- Toggles the row `id`, shown at `place` among the rows `visible`. With `range`, and if a row was
toggled before, the rows between the two are selected; else the row alone changes. -/
def toggle (s : SelectionStore κ) (name : String) (id : κ) (place : Nat) (range : Bool)
    (visible : List κ) : SelectionStore κ :=
  ⟨s.scopes.insert name ((s.scope name).toggle id place range visible)⟩

/-- Selects some rows of a scope and no others. -/
def selectAll (s : SelectionStore κ) (name : String) (ids : List κ) : SelectionStore κ :=
  ⟨s.scopes.insert name { s.scope name with selected := .ofList ids }⟩

/-- Selects no row of a scope, and forgets which one was toggled. A scope in which nothing has
happened is not even made. -/
def clear (s : SelectionStore κ) (name : String) : SelectionStore κ :=
  match s.scopes.get? name with
  | some _ => ⟨s.scopes.insert name {}⟩
  | none => s

/-- Whether a row is selected in a scope. -/
def isSelected (s : SelectionStore κ) (name : String) (id : κ) : Bool :=
  (s.scope name).selected.contains id

/-- How many rows are selected in a scope, shown or not. -/
def selectedCount (s : SelectionStore κ) (name : String) : Nat := (s.scope name).selected.size

/-- The place of the row of a scope toggled last. -/
def anchor (s : SelectionStore κ) (name : String) : Option Nat := (s.scope name).anchor

/-- The rows among those shown that are selected, in the order in which they are shown. -/
def selectedVisible (s : SelectionStore κ) (name : String) (visible : List κ) : List κ :=
  visible.filter (s.isSelected name)

end SelectionStore

end SubtitleCoverage
