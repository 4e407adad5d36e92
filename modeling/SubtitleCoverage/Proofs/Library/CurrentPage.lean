import Mathlib
import SubtitleCoverage.Proofs.Library.Changes
import SubtitleCoverage.Proofs.Library.Loading
import SubtitleCoverage.Proofs.Library.Operations
import SubtitleCoverage.Proofs.Listing.Pages

/-!
# The current page of a view

A view is out of range if its list does not have the current page.  Most operations that can make
the list shorter go back to the last page at once.  A change of the status of units does not: if it
moves units out of the list, the view can stay out of range until the list is looked at again.

## Main definitions

* `LibraryView.InRange` — the list has the current page.
* `Operation.Settles` — the operations that look at the list and go back to its last page.
* `Operation.ChangesStatus` — the operations that change the status of units.
* `LibraryView.shownPage` — the page that is shown next.

## Main results

* `length_matching` — the list is as long as the units that the query keeps.
* `inRange_of_step` — what one operation does to the range of a view.
* `Runs.inRange_or` — what any number of operations do to it.
* `pageUnits_eq` — the rows are those on the page that the view goes back to.
* `page_of_run` — **a view is out of range only after a change of status that has shortened its
  list**, and shows the last page then.
-/

namespace SubtitleCoverage

open Dialogue

namespace Operation

/-- The operations that look at the list and go back to its last page. -/
def Settles : Operation → Prop
  | .refresh | .refreshAll | .setFilters _ | .setPage _ | .visible | .rows | .toggle ..
  | .selectVisible | .selectedVisible | .setStatusSelected _ | .startBatchSelected => True
  | _ => False

/-- The operations that change the status of units. -/
def ChangesStatus : Operation → Prop
  | .setStatus .. | .setStatusSelected _ => True
  | _ => False

end Operation

namespace LibraryView

variable {v v' : LibraryView} {exchange : List ((c : Call) × c.Outcome)}

/-! ### Range -/

/-- The list has the current page. -/
def InRange (v : LibraryView) : Prop := v.paginator.InRange v.length

/-- The list is as long as the units that the query keeps, in whatever order. -/
theorem length_matching (v : LibraryView) :
    v.matching.length = (v.units.filter v.query.keeps).length := by
  rw [matching, ListQuery.apply, ListQuery.arrange, List.length_map, List.length_mergeSort,
    List.length_map]

theorem inRange_clampPage (v : LibraryView) : v.clampPage.InRange :=
  v.paginator.inRange_clamp v.length

/-- A view with the same paginator stays in range unless its list gets shorter. -/
theorem InRange.of_paginator_eq (h : v.InRange)
    (heq : v'.paginator = v.paginator) : v'.InRange ∨ v'.length < v.length := by
  by_cases hlt : v'.length < v.length
  · exact .inr hlt
  · have hle : v.length ≤ v'.length := UInt64.not_lt.1 hlt
    refine .inl ?_
    rw [InRange, heq]
    exact h.mono hle

/-! ### Single operations -/

/-- A search box that gives out a text makes the view go back to the last page, and else nothing is
different. -/
theorem inRange_applySearch (v : LibraryView) (found : Option String × SearchBox) :
    (v.applySearch found).2.InRange ∨ ¬v.InRange := by
  obtain ⟨text | text, searchBox⟩ := found
  · by_cases h : v.InRange
    · exact .inl h
    · exact .inr h
  · exact .inl (inRange_clampPage _)

/-- Another order leaves the list as long as it was. -/
theorem inRange_setSort (v : LibraryView) (sort : SortSpec) :
    (v.setSort sort).InRange ↔ v.InRange := by
  have hlength : (v.setSort sort).length = v.length := by
    rw [length, length, length_matching, length_matching]
    rfl
  rw [InRange, hlength]
  rfl

/-- A load goes back to the last page at its end. -/
theorem inRange_of_ends_load {fetch : Inquiry (Except Fault (List MediaUnit))}
    (h : Ends (v.load fetch) exchange v') : v'.InRange := by
  obtain ⟨profile, units, walk, rest, w, -, -, -, rfl⟩ := ends_load h
  exact inRange_clampPage _

/-- A change of status leaves the page as it is. -/
theorem paginator_of_ends_setStatus {id : MediaUnitId} {status : MediaStatus}
    {out : Except Fault Unit × LibraryView}
    (h : Ends (v.setStatus id status) exchange out) : out.2.paginator = v.paginator := by
  rw [frame_of_ends_setStatus h]

theorem paginator_of_ends_setStatuses {status : MediaStatus} {ids : List MediaUnitId}
    {out : Nat × LibraryView} (h : Ends (setStatuses status ids v) exchange out) :
    out.2.paginator = v.paginator := by
  rw [frame_of_ends_setStatuses ids h]

/-- A change of the status of the units selected comes after going back to the last page. -/
theorem inRange_setStatusSelected {s : SelectionStore MediaUnitId} {status : MediaStatus}
    {out : Nat × LibraryView} (h : Ends (v.setStatusSelected s status) exchange out) :
    out.2.InRange ∨ out.2.length < v.length := by
  have heq : out.2.paginator = v.clampPage.paginator := paginator_of_ends_setStatuses h
  exact (inRange_clampPage v).of_paginator_eq heq

/-- A deletion leaves the list and the page as they are. -/
theorem inRange_deleteSidecar {id : MediaUnitId} {path : String}
    {out : Except Fault Unit × LibraryView}
    (h : Ends (v.deleteSidecar id path) exchange out) : out.2.InRange ↔ v.InRange := by
  obtain ⟨answer, -, ⟨f, -, rfl⟩ | ⟨-, rfl⟩⟩ := ends_deleteSidecar h
  · rfl
  · rfl

/-- So does an entry on the blacklist. -/
theorem inRange_blacklist {entry : BlacklistEntry} {out : Except Fault Unit × LibraryView}
    (h : Ends (v.blacklist entry) exchange out) : out.2.InRange ↔ v.InRange := by
  obtain ⟨answer, -, ⟨f, -, rfl⟩ | ⟨-, rfl⟩⟩ := ends_blacklist h
  · rfl
  · rfl

/-- So does the answer to a batch. -/
theorem inRange_takeBatch (v : LibraryView) (b : Board) (name : String)
    (answer : Except Fault BatchStarted) :
    (v.takeBatch b name answer).view.InRange ↔ v.InRange := by
  cases answer <;> rfl

theorem inRange_searchMissing {b : Board} {o : BatchOutcome}
    (h : Ends (v.searchMissing b) exchange o) : o.view.InRange ↔ v.InRange := by
  rcases ends_searchMissing h with ⟨-, -, rfl⟩ | ⟨-, -, -, rfl⟩ | ⟨-, -, answer, -, rfl⟩
  · rfl
  · rfl
  · exact inRange_takeBatch ..

/-- A batch for the units selected is asked for after going back to the last page. -/
theorem inRange_startBatchSelected {s : SelectionStore MediaUnitId} {b : Board} {o : BatchOutcome}
    (h : Ends (v.startBatchSelected s b) exchange o) : o.view.InRange := by
  rcases ends_startBatchSelected h with ⟨-, -, rfl⟩ | ⟨-, answer, -, rfl⟩
  · exact inRange_clampPage v
  · exact (inRange_takeBatch ..).2 (inRange_clampPage v)

/-- A row is looked for after going back to the last page. -/
theorem inRange_toggle (v : LibraryView) (s : SelectionStore MediaUnitId) (id : MediaUnitId)
    (range : Bool) : (v.toggle s id range).2.1.InRange := by
  unfold toggle
  simp only
  split
  · exact inRange_clampPage v
  · exact inRange_clampPage v

/-! ### One operation -/

/-- **What one operation does to the range of a view.**  The view is in range then, or it was out of
range and the operation does not look at the list, or a change of status has shortened the list. -/
theorem inRange_of_step {op : Operation} (h : v.Step op v') :
    v'.InRange ∨ (¬op.Settles ∧ ¬v.InRange) ∨ (op.ChangesStatus ∧ v'.length < v.length) := by
  -- an operation that leaves the list and the page as they are
  have keeps (hop : ¬op.Settles) (hrange : v'.InRange ↔ v.InRange) :
      v'.InRange ∨ (¬op.Settles ∧ ¬v.InRange) ∨ (op.ChangesStatus ∧ v'.length < v.length) := by
    by_cases hin : v.InRange
    · exact .inl (hrange.2 hin)
    · exact .inr (.inl ⟨hop, hin⟩)
  obtain ⟨selection, board, exchange, w, h, rfl⟩ := h
  cases op with
  | refresh | refreshAll =>
    obtain ⟨v', hload, rfl⟩ := ends_map_iff.1 h
    exact .inl (inRange_of_ends_load hload)
  | setProfile _ | setServerPage _ | inputSearch _ _ | takeNotices | clearSelection =>
    obtain ⟨-, rfl⟩ := ends_done_iff.1 h
    exact keeps (fun hop => hop) Iff.rfl
  | setSort sort =>
    obtain ⟨-, rfl⟩ := ends_done_iff.1 h
    exact keeps (fun hop => hop) (inRange_setSort v sort)
  | setFilters _ | visible | rows | selectVisible | selectedVisible =>
    obtain ⟨-, rfl⟩ := ends_done_iff.1 h
    exact .inl (inRange_clampPage _)
  | setPage page =>
    obtain ⟨-, rfl⟩ := ends_done_iff.1 h
    exact .inl (v.paginator.inRange_setPage page v.length)
  | toggle id range =>
    obtain ⟨-, rfl⟩ := ends_done_iff.1 h
    exact .inl (inRange_toggle v selection id range)
  | pollSearch _ | submitSearch =>
    -- nothing may have been typed
    obtain ⟨-, rfl⟩ := ends_done_iff.1 h
    exact (inRange_applySearch v _).imp_right fun hout => .inl ⟨fun hop => hop, hout⟩
  | setStatus id status =>
    -- nothing is said of a view that was out of range before
    obtain ⟨out, hout, rfl⟩ := ends_map_iff.1 h
    by_cases hin : v.InRange
    · exact (hin.of_paginator_eq (paginator_of_ends_setStatus hout)).imp_right
        fun hlt => .inr ⟨trivial, hlt⟩
    · exact .inr (.inl ⟨fun hop => hop, hin⟩)
  | setStatusSelected status =>
    obtain ⟨out, hout, rfl⟩ := ends_map_iff.1 h
    exact (inRange_setStatusSelected hout).imp_right fun hlt => .inr ⟨trivial, hlt⟩
  | deleteSidecar id path =>
    obtain ⟨out, hout, rfl⟩ := ends_map_iff.1 h
    exact keeps (fun hop => hop) (inRange_deleteSidecar hout)
  | blacklist entry =>
    obtain ⟨out, hout, rfl⟩ := ends_map_iff.1 h
    exact keeps (fun hop => hop) (inRange_blacklist hout)
  | searchMissing =>
    obtain ⟨o, hout, rfl⟩ := ends_map_iff.1 h
    exact keeps (fun hop => hop) (inRange_searchMissing hout)
  | startBatchSelected =>
    obtain ⟨o, hout, rfl⟩ := ends_map_iff.1 h
    exact .inl (inRange_startBatchSelected hout)

/-! ### Many operations -/

theorem inRange_newFor (scope : String) (c : Config) (filters : MediaFilters) :
    (newFor scope c filters).InRange := Paginator.one_le_pageCount ..

/-- If some operations leave a view out of range, the last one of them that has looked at the list
or shortened it was a change of status that has shortened it. -/
theorem Runs.inRange_or {u v : LibraryView} {ops : List Operation} (h : u.Runs ops v)
    (hu : u.InRange) :
    v.InRange ∨ ∃ before op after w w', ops = before ++ op :: after ∧ u.Runs before w ∧
      w.Step op w' ∧ w'.Runs after v ∧ op.ChangesStatus ∧ w'.length < w.length ∧
      ∀ o ∈ after, ¬o.Settles := by
  induction h with
  | nil => exact .inl hu
  | snoc hrun hstep ih =>
    next ops op v' v'' =>
    rcases inRange_of_step hstep with hin | ⟨hop, hout⟩ | ⟨hop, hlt⟩
    · exact .inl hin
    · -- it was out of range before
      obtain ⟨before, o, after, w, w', rfl, hbefore, hw, hafter, ho, hlt, hothers⟩ :=
        ih.resolve_left hout
      refine .inr ⟨before, o, after ++ [op], w, w', ?_, hbefore, hw, hafter.snoc hstep, ho, hlt, ?_⟩
      · rw [List.append_assoc, List.cons_append]
      · intro o' ho'
        rcases List.mem_append.1 ho' with ho' | ho'
        · exact hothers o' ho'
        · rw [List.mem_singleton.1 ho']
          exact hop
    · exact .inr ⟨ops, op, [], v', v'', rfl, hrun, hstep, .nil, hop, hlt, nofun⟩

/-! ### What is shown -/

/-- The page that is shown: the current one, or the last one if the list has no such page. -/
def shownPage (v : LibraryView) : Nat := min v.pageInfo.page.toNat v.pageInfo.pageCount.toNat

theorem pageUnits_eq (h : v.units.length < 2 ^ 63) :
    v.pageUnits = (v.clampPage, v.paginator.pageAt v.shownPage v.matching) := by
  have hle : v.matching.length ≤ v.units.length := by
    rw [length_matching]
    exact List.length_filter_le ..
  have hslice := v.paginator.slice_eq (Nat.lt_of_le_of_lt hle h)
  rw [pageUnits, hslice]
  rfl

/-! ### Operations that succeed -/

/-- A profile and two units without sidecars can be loaded. -/
theorem step_refresh (v : LibraryView) (p : LanguageProfile) (u u' : MediaUnit) :
    v.Step .refresh { v with
      profile := some p
      units := [u, u']
      sidecars := (OrderedMap.empty.insert u.id []).insert u'.id []
      status := .ready }.clampPage :=
  ⟨.empty, .empty, _, _, Operation.ends_refresh ⟨v, .empty, .empty⟩ p u u', rfl⟩

theorem step_setFilters (filters : List Filter) :
    v.Step (.setFilters filters) (v.setFilters filters) := ⟨.empty, .empty, [], _, .done _, rfl⟩

theorem step_setPage (page : UInt64) : v.Step (.setPage page) (v.setPage page) :=
  ⟨.empty, .empty, [], _, .done _, rfl⟩

/-- The status of a unit that has been loaded can be changed. -/
theorem step_setStatus {id : MediaUnitId}
    (h : (v.units.find? fun u => u.id = id).isSome) (status : MediaStatus) :
    v.Step (.setStatus id status) (v.markStatus id status) := by
  obtain ⟨u, hu⟩ := Option.isSome_iff_exists.1 h
  refine ⟨.empty, .empty, [⟨.setStatus id status, .ok ()⟩], ⟨_, .empty, .empty⟩, ?_, rfl⟩
  rw [Operation.perform, setStatus, hu]
  exact .ask (.done _)

/-- **A view is out of range only after a change of status that has shortened its list**, and as long
as the list has not been looked at since.  The rows that are shown next are always those on the
current page, or on the last one if the list has no such page; the view stays on that page. -/
theorem page_of_run {scope : String} {c : Config} {filters : MediaFilters} {ops : List Operation}
    {v : LibraryView} (h : (newFor scope c filters).Runs ops v) :
    1 ≤ v.pageInfo.page ∧
    (v.pageInfo.page ≤ v.pageInfo.pageCount ∨
      ∃ before op after w w', ops = before ++ op :: after ∧
        (newFor scope c filters).Runs before w ∧ w.Step op w' ∧ w'.Runs after v ∧
        op.ChangesStatus ∧ w'.length < w.length ∧ ∀ o ∈ after, ¬o.Settles) ∧
    (v.units.length < 2 ^ 63 → ∀ selection,
      v.visible.2 = (v.paginator.pageAt v.shownPage v.matching).map (·.id) ∧
      (v.rows selection).2.map (·.unit) = v.paginator.pageAt v.shownPage v.matching ∧
      v.visible.1.pageInfo.page.toNat = v.shownPage ∧ (v.rows selection).1 = v.visible.1) := by
  refine ⟨v.paginator.page_pos, h.inRange_or (inRange_newFor scope c filters), ?_⟩
  intro hlength selection
  have heq := pageUnits_eq hlength
  have hvisible : v.visible =
      (v.clampPage, (v.paginator.pageAt v.shownPage v.matching).map (·.id)) := by
    rw [visible, heq]
  refine ⟨by rw [hvisible], ?_, ?_, ?_⟩
  · rw [rows, heq, List.map_map]
    exact List.map_id _
  · rw [hvisible]
    exact v.paginator.toNat_page_clamp v.length
  · rw [rows, heq, hvisible]

/-- Two units on pages of their own have been loaded, and the second one is gone to. -/
theorem page_of_run_second_page :
    let c : Config := { view := { pageSize := 1 } }
    ∃ v, (newFor "library" c {}).Runs [.refresh, .setPage 2] v ∧ v.units.length < 2 ^ 63 ∧
      v.shownPage = 2 ∧ v.visible.2 = [⟨8⟩] := by
  intro c
  let v := newFor "library" c {}
  let p : LanguageProfile := { id := ⟨1⟩, sourceLanguage := "en", targetLanguages := ["de"] }
  have hrun := (Runs.nil.snoc (v.step_refresh p { id := ⟨7⟩, title := "A" }
    { id := ⟨8⟩, title := "B" })).snoc (step_setPage 2)
  obtain ⟨-, -, hshown⟩ := page_of_run hrun
  obtain ⟨hvisible, -⟩ := hshown (by decide) .empty
  refine ⟨_, hrun, by decide, by cbv, ?_⟩
  rw [hvisible]
  cbv

/-- Of two units on pages of their own, the second one is moved out of the list while it is shown:
the view stands on page 2 of 1 then. -/
theorem page_of_run_out_of_range :
    let c : Config := { view := { pageSize := 1 } }
    ∃ v v', (newFor "library" c {}).Runs [.refresh, .setFilters [.status .monitored], .setPage 2] v ∧
      v.pageInfo = ⟨2, 2, 1, 2⟩ ∧ v.Step (.setStatus ⟨8⟩ .unmonitored) v' ∧
      v'.pageInfo = ⟨2, 1, 1, 1⟩ := by
  intro c
  let v := newFor "library" c {}
  let p : LanguageProfile := { id := ⟨1⟩, sourceLanguage := "en", targetLanguages := ["de"] }
  have hrun := ((Runs.nil.snoc (v.step_refresh p { id := ⟨7⟩, title := "A" }
    { id := ⟨8⟩, title := "B" })).snoc (step_setFilters [.status .monitored])).snoc
      (step_setPage 2)
  exact ⟨_, _, hrun, by cbv, step_setStatus rfl .unmonitored, by cbv⟩

end LibraryView

end SubtitleCoverage
