import SubtitleCoverage.Proofs.Listing.Scopes

/-!
# What is selected

What is selected in a scope after each change of it: after a row has been toggled, after some rows
have been selected, and after none has.

## Main results

* `OrderedMap.contains_insert`, `contains_erase`, `OrderedSet.contains_ofList` — members of sets.
* `ScopeSelection.contains_toggle_range`, `contains_toggle_single` — **what toggling does to each
  row**, with a range and on its own.
* `SelectionStore.isSelected_toggle`, `isSelected_selectAll`, `isSelected_clear` — what is selected in
  any scope after a change of one.
-/

namespace SubtitleCoverage

variable {κ : Type} [KeyOrder κ]

/-! ### Members of sets -/

section

variable [DecidableEq κ] {α : Type}

theorem OrderedMap.contains_insert (m : OrderedMap κ α) (k k' : κ) (v : α) :
    (m.insert k v).contains k' = true ↔ k = k' ∨ m.contains k' = true := by
  rw [contains_eq_isSome, contains_eq_isSome, get?_insert]
  by_cases h : k = k'
  · simp [h]
  · simp [h]

theorem OrderedMap.contains_erase (m : OrderedMap κ α) (k k' : κ) :
    (m.erase k).contains k' = true ↔ k ≠ k' ∧ m.contains k' = true := by
  rw [contains_eq_isSome, contains_eq_isSome, get?_erase]
  by_cases h : k = k'
  · simp [h]
  · simp [h]

theorem OrderedSet.contains_foldl_insert (xs : List κ) (m : OrderedSet κ) (k : κ) :
    (xs.foldl (fun m k => m.insert k ()) m).contains k = true ↔ k ∈ xs ∨ m.contains k = true := by
  induction xs generalizing m with
  | nil => simp
  | cons x xs ih =>
    rw [List.foldl_cons, ih, OrderedMap.contains_insert, List.mem_cons, eq_comm (a := x)]
    exact ⟨fun h => h.elim (fun h => .inl (.inr h)) (fun h => h.imp_left .inl),
      fun h => h.elim (fun h => h.elim (fun h => .inr (.inl h)) .inl) (fun h => .inr (.inr h))⟩

theorem OrderedSet.contains_ofList (xs : List κ) (k : κ) :
    (OrderedSet.ofList xs).contains k = true ↔ k ∈ xs := by
  rw [OrderedSet.ofList, OrderedMap.ofList, List.foldl_map, OrderedSet.contains_foldl_insert]
  exact or_iff_left (by simp [OrderedMap.contains_eq_isSome])

end

/-! ### Toggling -/

namespace ScopeSelection

variable (s : ScopeSelection κ) {a place : Nat} {range : Bool} {id k : κ} {visible : List κ}

omit [KeyOrder κ] in
theorem span_subset (visible : List κ) (a b : Nat) : span visible a b ⊆ visible :=
  fun _ h => List.mem_of_mem_drop (List.mem_of_mem_take h)

/-- **The rows of a range are selected**, and no others change. -/
theorem contains_toggle_range [DecidableEq κ] (h : s.anchor = some a) :
    (s.toggle id place true visible).selected.contains k = true ↔
      k ∈ span visible a place ∨ s.selected.contains k = true := by
  simp only [toggle, h]
  exact OrderedSet.contains_foldl_insert ..

/-- **A row that is toggled on its own changes**, and no other one does. -/
theorem contains_toggle_single [DecidableEq κ] (h : range = false ∨ s.anchor = none) :
    (s.toggle id place range visible).selected.contains k = true ↔
      if id = k then s.selected.contains k = false else s.selected.contains k = true := by
  -- without a range, or without a row to begin it with, only the row itself changes
  have hsingle : (s.toggle id place range visible).selected =
      if s.selected.contains id then s.selected.erase id else s.selected.insert id () := by
    rcases h with rfl | h
    · cases hanchor : s.anchor <;> simp only [toggle, hanchor]
    · simp only [toggle, h]
  rw [hsingle]
  by_cases hk : id = k
  · subst hk
    rw [if_pos rfl]
    split
    · next hid => simp [OrderedMap.contains_erase, hid]
    · next hid => simp [OrderedMap.contains_insert, hid]
  · rw [if_neg hk]
    split
    · exact (OrderedMap.contains_erase ..).trans (and_iff_right hk)
    · exact (OrderedMap.contains_insert ..).trans (or_iff_right hk)

/-- A row that is selected after a row shown has been toggled was selected before or is shown. -/
theorem contains_toggle [DecidableEq κ] (hid : id ∈ visible)
    (h : (s.toggle id place range visible).selected.contains k = true) :
    k ∈ visible ∨ s.selected.contains k = true := by
  by_cases hsingle : range = false ∨ s.anchor = none
  · rw [contains_toggle_single s hsingle] at h
    split at h
    · next heq => exact .inl (heq ▸ hid)
    · exact .inr h
  · rw [not_or, Bool.not_eq_false] at hsingle
    obtain ⟨rfl, hanchor⟩ := hsingle
    obtain ⟨a, ha⟩ := Option.ne_none_iff_exists'.1 hanchor
    exact ((contains_toggle_range s ha).1 h).imp_left fun hk => span_subset visible a place hk

end ScopeSelection

/-! ### Scopes -/

namespace SelectionStore

variable (s : SelectionStore κ) {name name' : String} {id k : κ}

/-- A row that is selected after a row shown has been toggled was selected before, or is shown and of
the same scope. -/
theorem isSelected_toggle [DecidableEq κ] {place : Nat} {range : Bool} {visible : List κ}
    (hid : id ∈ visible) (h : (s.toggle name id place range visible).isSelected name' k = true) :
    s.isSelected name' k = true ∨ (name = name' ∧ k ∈ visible) := by
  rw [isSelected, toggle, scope_insert] at h
  split at h
  · next heq =>
    subst heq
    exact ((s.scope name).contains_toggle hid h).symm.imp_right fun hk => ⟨rfl, hk⟩
  · exact .inl h

/-- The rows selected in a scope are those asked for, and the others stay as they are. -/
theorem isSelected_selectAll [DecidableEq κ] {ids : List κ} :
    (s.selectAll name ids).isSelected name' k = true ↔
      if name = name' then k ∈ ids else s.isSelected name' k = true := by
  rw [isSelected, selectAll, scope_insert]
  split
  · exact OrderedSet.contains_ofList ids k
  · exact Iff.rfl

/-- No row is selected in a scope that has been cleared, and the others stay as they are. -/
theorem isSelected_clear :
    (s.clear name).isSelected name' k = true ↔ name ≠ name' ∧ s.isSelected name' k = true := by
  rw [isSelected, scope_clear]
  split
  · next heq => exact iff_of_false Bool.false_ne_true fun h => h.1 heq
  · next hne => exact (and_iff_right hne).symm

theorem isSelected_empty : (empty : SelectionStore κ).isSelected name k = false := rfl

end SelectionStore

end SubtitleCoverage
