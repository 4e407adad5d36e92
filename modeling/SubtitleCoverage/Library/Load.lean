import SubtitleCoverage.Library.View

/-!
# Loading a view

A load asks for the profile, for the units and for the sidecars of every unit. What cannot be loaded
stays as it was, so that no fault makes a view show less than it did before. Only a unit that has
come twice can lose its sidecars: each fault takes those known before.

## Main definitions

* `LibraryView.walkPages` — the units of all pages of the backend.
* `LibraryView.loadSidecars` — the sidecars of the units loaded.
* `LibraryView.refresh`, `refreshAll` — the loads.
-/

namespace SubtitleCoverage

/-- How many units are on a page of the backend. -/
def serverPageSize : UInt32 := 250

namespace LibraryView

/-- The units on one page of the backend. -/
def fetchPage (filters : MediaFilters) (page : UInt32) : Inquiry (Except Fault (List MediaUnit)) :=
  .ask (.units page serverPageSize filters) fun
    | .ok p => .done (.ok p.data)
    | .error f => .done (.error f)

/-- The number of a page that is followed by another one is not the largest. -/
theorem toNat_add_one_of_lt {page totalPages : UInt32} (h : page < totalPages) :
    (page + 1).toNat = page.toNat + 1 := by
  have h₁ := UInt32.lt_iff_toNat_lt.1 h
  have h₂ := totalPages.toNat_lt
  rw [UInt32.toNat_add]
  exact Nat.mod_eq_of_lt (by simp; omega)

/-- The units on the pages of the backend from `page` on, after those in `before`. The walk ends
with the first page that is the last one by its own account, or has no units. -/
def walkPages (filters : MediaFilters) (before : List MediaUnit) (page : UInt32) :
    Inquiry (Except Fault (List MediaUnit)) :=
  .ask (.units page serverPageSize filters) fun
    | .error f => .done (.error f)
    | .ok p =>
      -- The number of the last page is what this very answer says; it may change on the way.
      if h : page < p.totalPages ∧ p.data ≠ [] then
        walkPages filters (before ++ p.data) (page + 1)
      else .done (.ok (before ++ p.data))
termination_by UInt32.size - page.toNat
decreasing_by
  have h' := page.toNat_lt_size
  rw [toNat_add_one_of_lt h.1]
  omega

/-- What comes of asking for the sidecars of a unit. -/
abbrev SidecarOutcome : Type := Except Fault (List Sidecar)

/-- Asks for the sidecars of some units, one after the other. -/
def fetchSidecars : List MediaUnitId → Inquiry (List (MediaUnitId × SidecarOutcome))
  | [] => .done []
  | id :: ids => do
    let outcome ← (Call.sidecars id).perform
    let rest ← fetchSidecars ids
    return (id, outcome) :: rest

/-- The sidecars known before, as far as they have not been taken over, and those known now. -/
structure Inventory where
  before : OrderedMap MediaUnitId (List Sidecar)
  now : OrderedMap MediaUnitId (List Sidecar) := .empty

/-- Takes account of what has come of asking for the sidecars of a unit. After a fault those known
before are taken over. -/
def Inventory.record (i : Inventory) : MediaUnitId × SidecarOutcome → Inventory
  | (id, .ok sidecars) => { i with now := i.now.insert id sidecars }
  | (id, .error _) =>
    { before := i.before.erase id, now := i.now.insert id ((i.before.get? id).getD []) }

/-- Loads the sidecars of the units. -/
def loadSidecars (v : LibraryView) : Inquiry LibraryView := do
  let outcomes ← fetchSidecars (v.units.map (·.id))
  return { v with sidecars := (outcomes.foldl Inventory.record ⟨v.sidecars, .empty⟩).now }

/-- Takes over the profile, if there is one. -/
def takeProfile (v : LibraryView) : Except Fault LanguageProfile → LibraryView
  | .ok p => { v with profile := some p }
  | .error _ => v

/-- Takes over the units, if there are some, and loads their sidecars. -/
def takeUnits (v : LibraryView) : Except Fault (List MediaUnit) → Inquiry LibraryView
  | .ok units => { v with units }.loadSidecars
  | .error _ => .done v

/-- The fault that a load ends with: that of the units, else that of the profile. -/
def loadFault (profile : Except Fault LanguageProfile) (units : Except Fault (List MediaUnit)) :
    Option Fault :=
  match units, profile with
  | .error f, _ => some f
  | .ok _, .error f => some f
  | .ok _, .ok _ => none

/-- Loads the profile, the units that `fetchUnits` asks for, and their sidecars. -/
def load (v : LibraryView) (fetchUnits : Inquiry (Except Fault (List MediaUnit))) :
    Inquiry LibraryView := do
  let profile ← (Call.profile v.profileId).perform
  -- The units are of use even if the profile cannot be had.
  let units ← fetchUnits
  let v ← (v.takeProfile profile).takeUnits units
  return { v with status := .ofFault? (loadFault profile units) }.clampPage

/-- Loads one page of the backend. -/
def refresh (v : LibraryView) : Inquiry LibraryView := v.load (fetchPage v.filters v.serverPage)

/-- Loads all pages of the backend. -/
def refreshAll (v : LibraryView) : Inquiry LibraryView := v.load (walkPages v.filters [] 1)

end LibraryView

end SubtitleCoverage
