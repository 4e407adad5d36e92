import SubtitleCoverage.Proofs.Library.Sharing
import SubtitleCoverage.Proofs.Listing.Selected

/-!
# Toggling a row

The row toggled last leaves its place as an anchor, and a later toggle with a range selects the rows
from there on.  The rows shown can be others by then, and fewer: the anchor can be beyond their end, and
so can the place that is toggled.  Whatever the two places are, the rows between them that there are
become selected and no row is deselected, so it does not matter which of the two was toggled first.

## Main definitions

* `slice?` — the entries from one place to another, if the list reaches that far.
* `SelectionStore.Toggled` — what toggling a row promises.

## Main results

* `ScopeSelection.mem_span_iff` — a range has the rows at the places between two others.
* `ScopeSelection.slice?_clipped` — a range clipped to the list is a slice that the list has.
* `SelectionStore.toggled_toggle` — **toggling does what it promises**, for any anchor, place and list.
* `SelectionStore.isSelected_toggle_swap` — anchor and place can change roles.
* `toggle_does_what_it_promises` — **so it does in a view**, where rows that are not shown stay as they
  are, and a row that ends a range is selected.
-/

namespace SubtitleCoverage

/-- The entries of a list from one place to another, both included; there are none to give if the list
ends before. -/
def slice? {α : Type} (xs : List α) (first last : Nat) : Option (List α) :=
  if first ≤ last + 1 ∧ last < xs.length then some ((xs.drop first).take (last + 1 - first)) else none

variable {κ : Type}

/-! ### Ranges -/

namespace ScopeSelection

/-- **A range has the rows at the places between two others**, as far as there are some. -/
theorem mem_span_iff {visible : List κ} {a b : Nat} {k : κ} :
    k ∈ span visible a b ↔ ∃ p, min a b ≤ p ∧ p ≤ max a b ∧ visible[p]? = some k := by
  simp only [span, List.mem_iff_getElem?, List.getElem?_take, List.getElem?_drop]
  constructor
  · rintro ⟨i, hi⟩
    split at hi
    · next hlt => exact ⟨min a b + i, by omega, by omega, hi⟩
    · contradiction
  · rintro ⟨p, hmin, hmax, hp⟩
    refine ⟨p - min a b, ?_⟩
    rw [if_pos (by omega), Nat.add_sub_cancel' hmin]
    exact hp

/-- **A range clipped to the list is a slice that the list has**, unless all of it is beyond the end. -/
theorem slice?_clipped (visible : List κ) (a b : Nat) :
    (if min a b < visible.length then
        slice? visible (min a b) (min (max a b) (visible.length - 1))
      else some []) = some (span visible a b) := by
  split
  · next hfirst =>
    rw [slice?, if_pos (by omega), span, Option.some_inj, List.take_eq_take_iff, List.length_drop]
    omega
  · next hbeyond => rw [span, List.drop_eq_nil_of_le (Nat.le_of_not_lt hbeyond), List.take_nil]

end ScopeSelection

/-! ### Toggling in a scope -/

namespace SelectionStore

variable [KeyOrder κ] [DecidableEq κ]

/-- What toggling the row `id`, shown at a place, promises.  From the row toggled before on, the rows
that are shown become selected and the others stay as they are; without a range, or without such a row,
the row alone changes.  The row is the one toggled last then. -/
structure Toggled (name : String) (id : κ) (place : Nat) (range : Bool) (visible : List κ)
    (s s' : SelectionStore κ) : Prop where
  anchor : s'.anchor name = some place
  between : ∀ a, s.anchor name = some a → range = true → ∀ k, s'.isSelected name k = true ↔
    s.isSelected name k = true ∨ ∃ p, min a place ≤ p ∧ p ≤ max a place ∧ visible[p]? = some k
  alone : range = false ∨ s.anchor name = none → ∀ k,
    s'.isSelected name k = if id = k then !s.isSelected name k else s.isSelected name k

/-- **Toggling does what it promises**, for any anchor, place and list. -/
theorem toggled_toggle (s : SelectionStore κ) (name : String) (id : κ) (place : Nat) (range : Bool)
    (visible : List κ) :
    Toggled name id place range visible s (s.toggle name id place range visible) := by
  have hscope : (s.toggle name id place range visible).scope name =
      (s.scope name).toggle id place range visible := by
    rw [toggle, scope_insert, if_pos rfl]
  constructor
  · rw [SelectionStore.anchor, hscope]
    rfl
  · rintro a ha rfl k
    rw [isSelected, hscope, ScopeSelection.contains_toggle_range _ ha, ScopeSelection.mem_span_iff]
    exact or_comm
  · intro hsingle k
    rw [Bool.eq_iff_iff, isSelected, hscope, ScopeSelection.contains_toggle_single _ hsingle,
      isSelected]
    split
    · rw [Bool.not_eq_true']
    · exact Iff.rfl

/-- **Anchor and place can change roles**: a range from the place to the anchor selects the same rows. -/
theorem isSelected_toggle_swap {s t : SelectionStore κ} {name : String} {a place : Nat}
    (ha : s.anchor name = some a) (hplace : t.anchor name = some place)
    (hst : ∀ k, t.isSelected name k = s.isSelected name k) (id id' : κ) (visible : List κ) (k : κ) :
    (t.toggle name id' a true visible).isSelected name k =
      (s.toggle name id place true visible).isSelected name k := by
  rw [Bool.eq_iff_iff, (t.toggled_toggle name id' a true visible).between place hplace rfl,
    (s.toggled_toggle name id place true visible).between a ha rfl, hst, Nat.min_comm, Nat.max_comm]

end SelectionStore

/-! ### Toggling in a view -/

namespace LibraryView

/-- A row that is shown is toggled at a place where it is shown. -/
theorem exists_place_of_visible {v : LibraryView} {id : MediaUnitId} (hid : id ∈ v.visible.2)
    (s : SelectionStore MediaUnitId) (range : Bool) :
    ∃ place, v.visible.2[place]? = some id ∧
      v.toggle s id range = (true, v.visible.1, s.toggle v.scope id place range v.visible.2) := by
  obtain ⟨place, hplace⟩ := Option.isSome_iff_exists.1 (List.isSome_idxOf?.2 hid)
  obtain ⟨hlt, hat, -⟩ := List.idxOf?_eq_some_iff.1 hplace
  exact ⟨place, List.getElem?_eq_some_iff.2 ⟨hlt, hat⟩, toggle_of_visible s rfl hplace⟩

end LibraryView

namespace SelectionStore

variable [KeyOrder κ] [DecidableEq κ]

/-- **Toggling does what a range promises.**  In every store, and for every row, place and list of rows
shown: the rows from the anchor to the place become selected as far as there are some, or the row alone
changes, and the place becomes the anchor; what is read of the list is a slice that it has; and anchor
and place can change roles.  In a view, a row that is not shown is refused and changes nothing, and a row
that is shown is toggled at a place where it is shown, after which it is selected if it ends a range. -/
theorem toggle_does_what_it_promises (s : SelectionStore κ) (name : String) (id : κ) (place : Nat)
    (range : Bool) (visible : List κ) :
    Toggled name id place range visible s (s.toggle name id place range visible) ∧
    (∀ a, (if min a place < visible.length then
        slice? visible (min a place) (min (max a place) (visible.length - 1))
      else some []) = some (ScopeSelection.span visible a place)) ∧
    (∀ (a : Nat) (t : SelectionStore κ) (id' : κ),
      s.anchor name = some a → t.anchor name = some place →
      (∀ k, t.isSelected name k = s.isSelected name k) →
      ∀ k, (t.toggle name id' a true visible).isSelected name k =
        (s.toggle name id place true visible).isSelected name k) ∧
    ∀ (v : LibraryView) (store : SelectionStore MediaUnitId) (unit : MediaUnitId) (range : Bool),
      let out := v.toggle store unit range
      (unit ∉ v.visible.2 → out.1 = false ∧ out.2.2 = store) ∧
      (unit ∈ v.visible.2 → out.1 = true ∧
        (∃ at', v.visible.2[at']? = some unit ∧
          Toggled v.scope unit at' range v.visible.2 store out.2.2) ∧
        (range = true → store.anchor v.scope ≠ none → out.2.2.isSelected v.scope unit = true)) := by
  refine ⟨s.toggled_toggle .., fun a => ScopeSelection.slice?_clipped visible a place, ?_, ?_⟩
  · intro a t id' ha hplace hst k
    exact isSelected_toggle_swap ha hplace hst id id' visible k
  · intro v store unit range out
    constructor
    · intro hhidden
      rcases v.toggle_eq store unit range with ⟨-, hfalse, hsame⟩ | ⟨hshown, -⟩
      · exact ⟨hfalse, hsame⟩
      · exact absurd hshown hhidden
    · intro hshown
      obtain ⟨p, hp, htoggle⟩ := LibraryView.exists_place_of_visible hshown store range
      have hout : out = (true, v.visible.1, store.toggle v.scope unit p range v.visible.2) := htoggle
      have htoggled := store.toggled_toggle v.scope unit p range v.visible.2
      rw [hout]
      refine ⟨rfl, ⟨p, hp, htoggled⟩, ?_⟩
      intro hrange hanchor
      obtain ⟨a, ha⟩ := Option.ne_none_iff_exists'.1 hanchor
      refine (htoggled.between a ha hrange unit).2 (.inr ⟨p, ?_, ?_, hp⟩)
      · exact Nat.min_le_right a p
      · exact Nat.le_max_right a p

/-- The anchor is beyond the end of the rows that are left: the range has the last two of them, and what
was selected stays so. -/
example :
    let ids := [1, 2, 3, 4].map MediaUnitId.mk
    let s := (empty.toggle "list" ⟨4⟩ 3 false ids).toggle "list" ⟨2⟩ 1 true (ids.take 3)
    ids.map (s.isSelected "list") = [false, true, true, true] ∧ s.anchor "list" = some 1 := by
  decide +kernel

end SelectionStore

end SubtitleCoverage
