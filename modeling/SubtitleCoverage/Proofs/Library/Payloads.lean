import SubtitleCoverage.Proofs.Library.Changes
import SubtitleCoverage.Proofs.Listing.Pages

/-!
# What is asked for the rows selected

A view reads its list anew whenever it is asked for its rows, for their ids, or for those that are
selected, and whenever a change of all selected rows begins.  All of these see the same page, also
when an earlier change, another query or another view of the same scope has moved rows away from it.
A change of all selected rows settles what it asks for before its first call, so it does not matter
what the calls do to the list.

## Main definitions

* `LibraryView.shownSelected` — the ids of the rows that are marked as selected.

## Main results

* `exists_ends_setStatuses_iff` — the calls of a change of several units, all of which are loaded.
* `payload_is_shown_selection` — **what is asked for is what is shown as selected.**
-/

namespace SubtitleCoverage

open Dialogue

namespace LibraryView

variable {v : LibraryView} {exchange : List ((c : Call) × c.Outcome)}

/-! ### The page that is read -/

/-- The ids of the rows that are marked as selected, in the order in which they are shown. -/
def shownSelected (v : LibraryView) (s : SelectionStore MediaUnitId) : List MediaUnitId :=
  ((v.rows s).2.filter (·.selected)).map (·.unit.id)

/-- The rows have the ids that are shown. -/
theorem map_id_rows (v : LibraryView) (s : SelectionStore MediaUnitId) :
    (v.rows s).2.map (·.unit.id) = v.visible.2 := by
  rw [rows, visible, List.map_map]
  rfl

/-- The ids among those shown that are selected are those of the rows that are marked. -/
theorem selectedVisible_eq_shownSelected (v : LibraryView) (s : SelectionStore MediaUnitId) :
    (v.selectedVisible s).2 = v.shownSelected s := by
  simp only [selectedVisible, SelectionStore.selectedVisible, shownSelected, visible, rows,
    List.filter_map, List.map_map]
  rfl

/-- A page that has been read is read again. -/
theorem pageUnits_pageUnits (v : LibraryView) : v.pageUnits.1.pageUnits = v.pageUnits := by
  have hslice := v.paginator.slice_slice v.matching
  rw [pageUnits]
  show ({ v with paginator := ((v.paginator.slice v.matching).1.slice v.matching).1 },
    ((v.paginator.slice v.matching).1.slice v.matching).2) = _
  rw [hslice]
  rfl

/-- Only units that are loaded match a query. -/
theorem matching_subset (v : LibraryView) : v.matching ⊆ v.units := by
  intro u hu
  rw [matching, ListQuery.apply, ListQuery.arrange, List.mem_map] at hu
  obtain ⟨e, he, rfl⟩ := hu
  obtain ⟨u, hu, rfl⟩ := List.mem_map.1 (List.mem_mergeSort.1 he)
  exact (List.mem_filter.1 hu).1

theorem visible_subset (v : LibraryView) : v.visible.2 ⊆ v.units.map (·.id) :=
  List.map_subset _ fun _ hu => v.matching_subset (v.paginator.slice_subset v.matching hu)

theorem shownSelected_subset (v : LibraryView) (s : SelectionStore MediaUnitId) :
    v.shownSelected s ⊆ v.units.map (·.id) := by
  rw [← selectedVisible_eq_shownSelected]
  exact fun id hid => v.visible_subset (List.mem_filter.1 hid).1

/-! ### The calls -/

/-- The status of a unit that is loaded is changed by one call. -/
theorem exists_ends_setStatus_iff {id : MediaUnitId} {status : MediaStatus}
    (h : id ∈ v.units.map (·.id)) :
    (∃ out, Ends (v.setStatus id status) exchange out) ↔
      exchange.map (·.1) = [.setStatus id status] := by
  obtain ⟨u, hu⟩ := Option.ne_none_iff_exists'.1 (mt (v.find?_eq_none_iff id).1 (not_not_intro h))
  rw [setStatus, hu]
  refine exists_ends_question_bind_iff fun answer => ?_
  cases answer with
  | ok _ => exact ⟨_, rfl⟩
  | error f => exact ⟨_, rfl⟩

/-- A change of status leaves the ids as they are. -/
theorem map_id_of_ends_setStatus {id : MediaUnitId} {status : MediaStatus}
    {out : Except Fault Unit × LibraryView} (h : Ends (v.setStatus id status) exchange out) :
    out.2.units.map (·.id) = v.units.map (·.id) := by
  rcases ends_setStatus h with ⟨-, -, rfl⟩ | ⟨u, answer, -, -, ⟨-, rfl⟩ | ⟨f, -, rfl⟩⟩
  · rfl
  · exact v.map_id_markStatus id status
  · exact ((v.markStatus id status).map_id_markStatus id u.status).trans
      (v.map_id_markStatus id status)

/-- **The status of units that are loaded is changed by one call each**, in their order.  No change
takes a unit away from those that come after it. -/
theorem exists_ends_setStatuses_iff {status : MediaStatus} (ids : List MediaUnitId) :
    ∀ {v : LibraryView} {exchange : List ((c : Call) × c.Outcome)}, ids ⊆ v.units.map (·.id) →
      ((∃ out, Ends (setStatuses status ids v) exchange out) ↔
        exchange.map (·.1) = ids.map fun id => .setStatus id status) := by
  induction ids with
  | nil =>
    intro v exchange _
    exact exists_ends_done_iff
  | cons id ids ih =>
    intro v exchange hids
    obtain ⟨hid, hids⟩ := List.cons_subset.1 hids
    constructor
    · rintro ⟨out, hout⟩
      obtain ⟨first, later, outcome, v', count, rfl, hfirst, hlater, -⟩ := ends_setStatuses_cons hout
      have hids' : ids ⊆ v'.units.map (·.id) := by
        rwa [map_id_of_ends_setStatus hfirst]
      rw [List.map_append, (exists_ends_setStatus_iff hid).1 ⟨_, hfirst⟩, (ih hids').1 ⟨_, hlater⟩]
      rfl
    · intro hcalls
      obtain ⟨first, later, rfl, hfirst, hlater⟩ := List.map_eq_append_iff.1
        (hcalls.trans (List.singleton_append (l := ids.map _)).symm)
      obtain ⟨⟨outcome, v'⟩, hout⟩ := (exists_ends_setStatus_iff hid).2 hfirst
      have hids' : ids ⊆ v'.units.map (·.id) := by
        rwa [map_id_of_ends_setStatus hout]
      obtain ⟨⟨count, w⟩, hrest⟩ := (ih hids').2 hlater
      exact ⟨_, ends_bind.2 ⟨first, later, _, rfl, hout, ends_map_iff.2 ⟨_, hrest, rfl⟩⟩⟩

/-- A batch job for the rows selected is one call, if there are some. -/
theorem exists_ends_startBatchSelected_iff (v : LibraryView) (s : SelectionStore MediaUnitId)
    (b : Board) :
    (∃ o, Ends (v.startBatchSelected s b) exchange o) ↔
      exchange.map (·.1) = if (v.selectedVisible s).2 = [] then []
        else [.startBatch v.scope (some (v.selectedVisible s).2)] := by
  unfold startBatchSelected
  simp only
  split
  · exact exists_ends_done_iff
  · exact exists_ends_question_bind_iff fun answer => ⟨_, rfl⟩

/-- **What is asked for is what is shown as selected.**  The rows have the ids that are shown, and
those that are marked are the ones selected, in the order in which they are shown; a view that has
been read shows the same again.  A batch job for the rows selected is one call with their ids, and no
call if there are none.  A change of the status of the rows selected is one call for each of them, in
order, whatever the answers are and wherever the changes move the rows. -/
theorem payload_is_shown_selection (v : LibraryView) (s : SelectionStore MediaUnitId) (b : Board) :
    (v.rows s).2.map (·.unit.id) = v.visible.2 ∧
    (v.selectedVisible s).2 = v.shownSelected s ∧
    (v.rows s).1 = v.visible.1 ∧ (v.selectedVisible s).1 = v.visible.1 ∧
    v.visible.1.visible = v.visible ∧ v.visible.1.rows s = v.rows s ∧
    v.visible.1.selectedVisible s = v.selectedVisible s ∧
    (∀ exchange, (∃ o, Ends (v.startBatchSelected s b) exchange o) ↔
      exchange.map (·.1) = if v.shownSelected s = [] then []
        else [.startBatch v.scope (some (v.shownSelected s))]) ∧
    (∀ status exchange, (∃ out, Ends (v.setStatusSelected s status) exchange out) ↔
      exchange.map (·.1) = (v.shownSelected s).map fun id => .setStatus id status) := by
  have hagain : v.visible.1.pageUnits = v.pageUnits := v.pageUnits_pageUnits
  have hvisible : v.visible.1.visible = v.visible := by
    rw [visible, hagain]
    rfl
  refine ⟨v.map_id_rows s, v.selectedVisible_eq_shownSelected s, rfl, rfl, hvisible, ?_, ?_,
    fun exchange => ?_, fun status exchange => ?_⟩
  · rw [rows, hagain]
    rfl
  · rw [selectedVisible, hvisible]
    rfl
  · rw [← selectedVisible_eq_shownSelected]
    exact v.exists_ends_startBatchSelected_iff s b
  · have hloaded : v.shownSelected s ⊆ (v.selectedVisible s).1.units.map (·.id) :=
      v.shownSelected_subset s
    rw [← selectedVisible_eq_shownSelected] at hloaded ⊢
    exact exists_ends_setStatuses_iff _ hloaded

end LibraryView

end SubtitleCoverage
