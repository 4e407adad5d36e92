import Mathlib
import SubtitleCoverage.Library.Session
import SubtitleCoverage.Proofs.Library.Changes
import SubtitleCoverage.Proofs.Library.Loading
import SubtitleCoverage.Proofs.Library.Operations
import SubtitleCoverage.Proofs.Listing.Selected

/-!
# Views that share a session

Any number of views work with one session.  Several of them may have one scope, so what is selected in
a scope is the work of all of them.  While a view waits for the backend, other views go on; what was
selected when it asked may not be selected any more when it is answered.

## Main definitions

* `Operation.selectionAfter`, `Operation.Selects` — what an operation does to the selection, and
  whether it selects rows that are shown.
* `SharedSession` — a session and its views.
* `SharedSession.Act`, `Step`, `Runs` — what can happen to them, once and any number of times.

## Main results

* `Operation.selection_of_ends`, `Operation.scope_of_ends` — every operation changes the selection as
  said, and keeps the scope of its view.
* `Operation.isSelected_selectionAfter`, `SharedSession.isSelected_of_step` — where a row that is
  selected comes from.
* `SharedSession.selected_were_visible` — **only rows that were shown are ever selected.**
-/

namespace SubtitleCoverage

open Dialogue

/-! ### The scope of a view -/

namespace LibraryView

theorem scope_applySearch (v : LibraryView) (found : Option String × SearchBox) :
    (v.applySearch found).2.scope = v.scope := by
  obtain ⟨text | text, searchBox⟩ := found
  · rfl
  · rfl

/-- A row is toggled if it is shown. -/
theorem toggle_eq (v : LibraryView) (s : SelectionStore MediaUnitId) (id : MediaUnitId)
    (range : Bool) :
    (id ∉ v.visible.2 ∧ (v.toggle s id range).1 = false ∧ (v.toggle s id range).2.2 = s) ∨
    (id ∈ v.visible.2 ∧ (v.toggle s id range).1 = true ∧
      ∃ place, (v.toggle s id range).2.2 = s.toggle v.scope id place range v.visible.2) := by
  unfold toggle
  simp only
  split
  · next place hplace =>
    have hid : id ∈ v.visible.2 := List.isSome_idxOf?.1 (Option.isSome_of_eq_some hplace)
    exact .inr ⟨hid, rfl, place, rfl⟩
  · next hnone => exact .inl ⟨List.idxOf?_eq_none_iff.1 hnone, rfl, rfl⟩

theorem toggle_of_visible {v v' : LibraryView} (s : SelectionStore MediaUnitId) {id : MediaUnitId}
    {range : Bool} {ids : List MediaUnitId} {place : Nat} (hvisible : v.visible = (v', ids))
    (hplace : ids.idxOf? id = some place) :
    v.toggle s id range = (true, v', s.toggle v'.scope id place range ids) := by
  simp only [toggle, hvisible, hplace]

end LibraryView

/-! ### What an operation does to the selection -/

namespace Operation

/-- What is selected after an operation on a view. -/
def selectionAfter (v : LibraryView) (s : SelectionStore MediaUnitId) :
    Operation → SelectionStore MediaUnitId
  | .toggle id range => (v.toggle s id range).2.2
  | .selectVisible => (v.selectVisible s).2
  | .clearSelection => v.clearSelection s
  | _ => s

/-- An operation selects rows that are shown: it toggles one of them, with others or alone, or it
selects them all. -/
def Selects (v : LibraryView) (s : SelectionStore MediaUnitId) : Operation → Prop
  | .toggle id range => (v.toggle s id range).1 = true
  | .selectVisible => True
  | _ => False

/-- An operation leaves no row selected but those that it selects itself: all that are shown, or none. -/
def Replaces : Operation → Prop
  | .selectVisible | .clearSelection => True
  | _ => False

/-- An operation asks the backend, and others can go on while it waits. -/
def AsksBackend : Operation → Prop
  | .refresh | .refreshAll | .setStatus .. | .setStatusSelected _ | .deleteSidecar .. | .blacklist _
  | .searchMissing | .startBatchSelected => True
  | _ => False

variable {op : Operation} {w w' : Workspace} {exchange : List ((c : Call) × c.Outcome)}

/-- **Every operation changes the selection as said.** -/
theorem selection_of_ends (h : Ends (op.perform w) exchange w') :
    w'.selection = op.selectionAfter w.view w.selection := by
  cases op with
  | refresh | refreshAll | setStatus _ _ | setStatusSelected _ | deleteSidecar _ _ | blacklist _
  | searchMissing | startBatchSelected =>
    obtain ⟨out, -, rfl⟩ := ends_map_iff.1 h
    rfl
  | setProfile _ | setServerPage _ | setFilters _ | setSort _ | setPage _ | inputSearch _ _
  | pollSearch _ | submitSearch | visible | rows | takeNotices | toggle _ _ | selectVisible
  | clearSelection | selectedVisible =>
    obtain ⟨-, rfl⟩ := ends_done_iff.1 h
    rfl

/-- **No operation changes the scope of its view.** -/
theorem scope_of_ends (h : Ends (op.perform w) exchange w') : w'.view.scope = w.view.scope := by
  cases op with
  | inputSearch _ _ =>
    obtain ⟨-, rfl⟩ := ends_done_iff.1 h
    rfl
  | pollSearch _ | submitSearch =>
    obtain ⟨-, rfl⟩ := ends_done_iff.1 h
    exact LibraryView.scope_applySearch ..
  | _ => exact congrArg Prod.fst (searchState_of_ends h fun hop => hop)

variable {v : LibraryView} {s : SelectionStore MediaUnitId} {name : String} {id : MediaUnitId}

/-- An operation that asks the backend does not change the selection. -/
theorem selectionAfter_of_asksBackend (h : op.AsksBackend) : op.selectionAfter v s = s := by
  cases op with
  | refresh | refreshAll | setStatus _ _ | setStatusSelected _ | deleteSidecar _ _ | blacklist _
  | searchMissing | startBatchSelected => rfl
  | _ => exact h.elim

/-- Nor does one that does not select rows and does not clear the selection. -/
theorem selectionAfter_of_not_selects (hselects : ¬op.Selects v s) (hclear : op ≠ .clearSelection) :
    op.selectionAfter v s = s := by
  cases op with
  | toggle id range =>
    rcases v.toggle_eq s id range with ⟨-, -, hsame⟩ | ⟨-, htrue, -⟩
    · exact hsame
    · exact absurd htrue hselects
  | selectVisible => exact absurd trivial hselects
  | clearSelection => exact absurd rfl hclear
  | _ => rfl

/-- **Where a row comes from that is selected after an operation.**  It was selected before, and has
not been replaced; or it is shown in a view of the scope, and the operation selects rows there. -/
theorem isSelected_selectionAfter (h : (op.selectionAfter v s).isSelected name id = true) :
    (s.isSelected name id = true ∧ (op.Replaces → v.scope ≠ name)) ∨
      (v.scope = name ∧ op.Selects v s ∧ id ∈ v.visible.2) := by
  cases op with
  | toggle rowId range =>
    rcases v.toggle_eq s rowId range with ⟨-, -, hsame⟩ | ⟨hid, htrue, place, htoggle⟩
    · rw [selectionAfter, hsame] at h
      exact .inl ⟨h, nofun⟩
    · rw [selectionAfter, htoggle] at h
      exact (s.isSelected_toggle hid h).imp (fun h => ⟨h, nofun⟩) fun hk => ⟨hk.1, htrue, hk.2⟩
  | selectVisible =>
    -- the rows shown replace what was selected in the scope of the view
    have hid := s.isSelected_selectAll.1 h
    split at hid
    · next hname => exact .inr ⟨hname, trivial, hid⟩
    · next hne => exact .inl ⟨hid, fun _ => hne⟩
  | clearSelection =>
    obtain ⟨hne, hid⟩ := s.isSelected_clear.1 h
    exact .inl ⟨hid, fun _ => hne⟩
  | _ => exact .inl ⟨h, nofun⟩

end Operation

/-! ### A session and its views -/

/-- What can happen to a session besides what its views do to it. -/
inductive SessionMove where
  | subscribe
  | unsubscribe (receiver : Nat)
  | publish (e : JobEvent)
  | event (e : JobEvent) (now : Int)
  | receive (receiver : Nat) (now : Int)
  | tick (now : Int)
  | dismiss (job : JobId)

/-- What comes of it. -/
def Session.move (s : Session) : SessionMove → Session
  | .subscribe => { s with bus := s.bus.subscribe.2 }
  | .unsubscribe receiver => { s with bus := s.bus.unsubscribe receiver }
  | .publish e => { s with bus := s.bus.publish e }
  | .event e now => s.applyEvent e now
  | .receive receiver now => s.pumpReceive receiver now
  | .tick now => s.pumpTick now
  | .dismiss job => { s with board := (s.board.dismiss job).2 }

/-- Job events, pumps and the board have nothing to do with the selection. -/
theorem Session.selection_move (s : Session) (m : SessionMove) :
    (s.move m).selection = s.selection := by
  cases m with
  | receive receiver now =>
    rw [move, pumpReceive]
    split
    · rfl
    · rfl
  | tick now => rw [move, pumpTick]
  | _ => rfl

/-- A session and its views. -/
structure SharedSession (ι : Type) where
  session : Session
  views : ι → LibraryView

namespace SharedSession

variable {ι : Type}

/-- What can happen to a session and its views. -/
inductive Act (ι : Type) where
  | view (i : ι) (op : Operation)
  | move (m : SessionMove)

/-- A session in which nothing has happened, with views of some scopes before anything has been
loaded. -/
def start (c : Config) (scopes : ι → String) (filters : ι → MediaFilters) : SharedSession ι :=
  ⟨{ config := c }, fun i => .newFor (scopes i) c (filters i)⟩

variable [DecidableEq ι] {d d' : SharedSession ι}

/-- One thing can turn a session and its views into others, whatever the backend answers. -/
inductive Step (d : SharedSession ι) : Act ι → SharedSession ι → Prop where
  /-- An operation is done at once. -/
  | done {i : ι} {op : Operation} {exchange : List ((c : Call) × c.Outcome)} {w : Workspace}
    (hop : ¬op.AsksBackend)
    (h : Ends (op.perform ⟨d.views i, d.session.selection, d.session.board⟩) exchange w) :
    Step d (.view i op)
      ⟨{ d.session with selection := w.selection, board := w.board },
        Function.update d.views i w.view⟩
  /-- An operation that asks the backend is done when it has been answered.  What others have done
  while it waited has happened before; what it has read of the selection may be out of date. -/
  | answered {i : ι} {op : Operation} {exchange : List ((c : Call) × c.Outcome)} {w : Workspace}
    {selection : SelectionStore MediaUnitId} (hop : op.AsksBackend)
    (h : Ends (op.perform ⟨d.views i, selection, d.session.board⟩) exchange w) :
    Step d (.view i op)
      ⟨{ d.session with board := w.board }, Function.update d.views i w.view⟩
  | move (m : SessionMove) : Step d (.move m) { d with session := d.session.move m }

/-- Some things, one after the other, can turn a session and its views into others. -/
inductive Runs (d : SharedSession ι) : List (Act ι) → SharedSession ι → Prop where
  | nil : Runs d [] d
  | snoc {acts : List (Act ι)} {act : Act ι} {d' d'' : SharedSession ι} (h : Runs d acts d')
    (hstep : d'.Step act d'') : Runs d (acts ++ [act]) d''

/-! ### One step -/

/-- What is selected in the session is what the operation makes of it. -/
theorem selection_of_step {i : ι} {op : Operation} (h : d.Step (.view i op) d') :
    d'.session.selection = op.selectionAfter (d.views i) d.session.selection := by
  cases h with
  | done hop h =>
    have hselection := Operation.selection_of_ends h
    exact hselection
  | answered hop h => rw [Operation.selectionAfter_of_asksBackend hop]

/-- Every view keeps its scope. -/
theorem scope_of_step {act : Act ι} (h : d.Step act d') (j : ι) :
    (d'.views j).scope = (d.views j).scope := by
  -- an operation on one view leaves the others as they are
  have update_scope {i : ι} {v : LibraryView} (hv : v.scope = (d.views i).scope) :
      (Function.update d.views i v j).scope = (d.views j).scope := by
    by_cases hj : j = i
    · rw [hj, Function.update_self, hv]
    · rw [Function.update_of_ne hj]
  cases h with
  | done hop h => exact update_scope (Operation.scope_of_ends h)
  | answered hop h => exact update_scope (Operation.scope_of_ends h)
  | move m => rfl

/-- **Where a row comes from that is selected after a step.** -/
theorem isSelected_of_step {act : Act ι} {name : String} {id : MediaUnitId} (h : d.Step act d')
    (hid : d'.session.selection.isSelected name id = true) :
    (d.session.selection.isSelected name id = true ∧
        ∀ i op, act = .view i op → op.Replaces → (d.views i).scope ≠ name) ∨
      ∃ i op, act = .view i op ∧ (d.views i).scope = name ∧
        op.Selects (d.views i) d.session.selection ∧ id ∈ (d.views i).visible.2 := by
  cases act with
  | view i op =>
    rw [selection_of_step h] at hid
    rcases Operation.isSelected_selectionAfter hid with ⟨hbefore, hclear⟩ | ⟨hname, hop, hshown⟩
    · refine .inl ⟨hbefore, fun j op' heq => ?_⟩
      obtain ⟨rfl, rfl⟩ := Act.view.inj heq
      exact hclear
    · exact .inr ⟨i, op, rfl, hname, hop, hshown⟩
  | move m =>
    cases h
    rw [Session.selection_move] at hid
    exact .inl ⟨hid, nofun⟩

/-! ### Many steps -/

theorem Runs.scope_eq {acts : List (Act ι)} (h : d.Runs acts d') (i : ι) :
    (d'.views i).scope = (d.views i).scope := by
  induction h with
  | nil => rfl
  | snoc hrun hstep ih => exact (scope_of_step hstep i).trans ih

/-- A row that is selected in a scope was selected at the beginning, or it was shown in a view of the
scope when that view selected rows.  What was selected in the scope has not been replaced since. -/
theorem Runs.isSelected_origin {acts : List (Act ι)} {name : String} {id : MediaUnitId}
    (h : d.Runs acts d') (hid : d'.session.selection.isSelected name id = true) :
    (d.session.selection.isSelected name id = true ∧
        ∀ i op, .view i op ∈ acts → op.Replaces → (d.views i).scope ≠ name) ∨
      ∃ before i op after u u', acts = before ++ .view i op :: after ∧ d.Runs before u ∧
        u.Step (.view i op) u' ∧ u'.Runs after d' ∧ (d.views i).scope = name ∧
        op.Selects (u.views i) u.session.selection ∧ id ∈ (u.views i).visible.2 ∧
        ∀ j op', .view j op' ∈ after → op'.Replaces → (d.views j).scope ≠ name := by
  -- the row comes from the last act, or it was selected before and has its origin there
  induction h with
  | nil => exact .inl ⟨hid, nofun⟩
  | snoc hrun hstep ih =>
    next acts act u u' =>
    rcases isSelected_of_step hstep hid with ⟨hbefore, hkept⟩ | ⟨i, op, rfl, hname, hop, hshown⟩
    · -- the last act has not replaced what was selected
      have hlast (i : ι) (op : Operation) (heq : .view i op = act) (hop : op.Replaces) :
          (d.views i).scope ≠ name := by
        rw [← hrun.scope_eq]
        exact hkept i op heq.symm hop
      rcases ih hbefore with ⟨hfirst, hothers⟩ |
        ⟨before, i, op, after, t, t', rfl, ht, ht', hafter, hname, hop, hshown, hothers⟩
      · refine .inl ⟨hfirst, fun i op hi => ?_⟩
        rcases List.mem_append.1 hi with hi | hi
        · exact hothers i op hi
        · exact hlast i op (List.mem_singleton.1 hi)
      · refine .inr ⟨before, i, op, after ++ [act], t, t', ?_, ht, ht', hafter.snoc hstep, hname,
          hop, hshown, fun j op' hj => ?_⟩
        · rw [List.append_assoc, List.cons_append]
        · rcases List.mem_append.1 hj with hj | hj
          · exact hothers j op' hj
          · exact hlast j op' (List.mem_singleton.1 hj)
    · refine .inr ⟨acts, i, op, [], u, u', rfl, hrun, hstep, .nil, ?_, hop, hshown, nofun⟩
      rw [← hrun.scope_eq, hname]

/-- **Only rows that were shown are ever selected.**  Every row that is selected in a scope was shown in
a view of this scope when that view selected rows, and since then the scope has not been cleared, nor
have the rows of a page been selected in it instead.  Nothing but selecting rows and clearing the
selection changes what is selected. -/
theorem selected_were_visible {c : Config} {scopes : ι → String} {filters : ι → MediaFilters}
    {acts : List (Act ι)} (h : (start c scopes filters).Runs acts d) :
    (∀ name id, d.session.selection.isSelected name id = true →
      ∃ before i op after u u', acts = before ++ .view i op :: after ∧
        (start c scopes filters).Runs before u ∧ u.Step (.view i op) u' ∧ u'.Runs after d ∧
        (u.views i).scope = name ∧ op.Selects (u.views i) u.session.selection ∧
        id ∈ (u.views i).visible.2 ∧
        ∀ j op', .view j op' ∈ after → op'.Replaces → (d.views j).scope ≠ name) ∧
    (∀ i op d', d.Step (.view i op) d' → ¬op.Selects (d.views i) d.session.selection →
      op ≠ .clearSelection → d'.session.selection = d.session.selection) ∧
    (∀ m d', d.Step (.move m) d' → d'.session.selection = d.session.selection) ∧
    ∀ i, (d.views i).scope = scopes i := by
  refine ⟨fun name id hid => ?_, fun i op d' hstep hop hclear => ?_, fun m d' hstep => ?_,
    h.scope_eq⟩
  · rcases h.isSelected_origin hid with ⟨hfirst, -⟩ |
      ⟨before, i, op, after, u, u', hacts, hu, hu', hafter, hname, hop, hshown, hothers⟩
    · rw [start, SelectionStore.isSelected_empty] at hfirst
      contradiction
    · refine ⟨before, i, op, after, u, u', hacts, hu, hu', hafter, ?_, hop, hshown, ?_⟩
      · rw [hu.scope_eq, hname]
      · intro j op'
        rw [h.scope_eq]
        exact hothers j op'
  · rw [selection_of_step hstep, Operation.selectionAfter_of_not_selects hop hclear]
  · cases hstep
    exact Session.selection_move ..

/-! ### Steps that succeed -/

/-- A profile and two units without sidecars can be loaded. -/
theorem step_refresh {i : ι} {v : LibraryView} (p : LanguageProfile) (u u' : MediaUnit)
    (h : { d.views i with
      profile := some p
      units := [u, u']
      sidecars := (OrderedMap.empty.insert u.id []).insert u'.id []
      status := .ready }.clampPage = v) :
    d.Step (.view i .refresh) ⟨d.session, Function.update d.views i v⟩ := by
  subst h
  have hop : Operation.AsksBackend .refresh := trivial
  exact .answered hop (Operation.ends_refresh ⟨d.views i, .empty, d.session.board⟩ p u u')

theorem step_setPage {i : ι} {page : UInt64} {v : LibraryView} (h : (d.views i).setPage page = v) :
    d.Step (.view i (.setPage page)) ⟨d.session, Function.update d.views i v⟩ := by
  subst h
  have hop : ¬Operation.AsksBackend (.setPage page) := id
  exact .done hop (.done _)

theorem step_toggle {i : ι} {rowId : MediaUnitId} {range b : Bool} {v : LibraryView}
    {s : SelectionStore MediaUnitId}
    (h : (d.views i).toggle d.session.selection rowId range = (b, v, s)) :
    d.Step (.view i (.toggle rowId range))
      ⟨{ d.session with selection := s }, Function.update d.views i v⟩ := by
  have hends : Ends (Operation.perform (.toggle rowId range)
      ⟨d.views i, d.session.selection, d.session.board⟩) [] ⟨v, s, d.session.board⟩ := by
    simp only [Operation.perform, h]
    exact .done _
  have hop : ¬Operation.AsksBackend (.toggle rowId range) := id
  exact .done hop hends

/-- Two views of one scope show a page each.  The row on the first page is selected in one view, and
the row on the second page with a range in the other view, which does not show the first row. -/
theorem selected_were_visible_in_two_views :
    let c : Config := { view := { pageSize := 1 } }
    let acts : List (Act Bool) := [.view false .refresh, .view false (.toggle ⟨7⟩ false),
      .view true .refresh, .view true (.setPage 2), .view true (.toggle ⟨8⟩ true)]
    ∃ d, (start c (fun _ => "library") fun _ => {}).Runs acts d ∧
      d.session.selection.isSelected "library" ⟨7⟩ = true ∧
      d.session.selection.isSelected "library" ⟨8⟩ = true ∧ (d.views true).visible.2 = [⟨8⟩] ∧
      ∃ before i op after u, acts = before ++ .view i op :: after ∧
        (start c (fun _ => "library") fun _ => {}).Runs before u ∧
        (⟨7⟩ : MediaUnitId) ∈ (u.views i).visible.2 := by
  intro c acts
  let p : LanguageProfile := { id := ⟨1⟩, sourceLanguage := "en", targetLanguages := ["de"] }
  let u : MediaUnit := { id := ⟨7⟩, title := "A" }
  let u' : MediaUnit := { id := ⟨8⟩, title := "B" }
  obtain ⟨v, hload⟩ : ∃ v : LibraryView, { LibraryView.newFor "library" c {} with
    profile := some p
    units := [u, u']
    sidecars := (OrderedMap.empty.insert u.id []).insert u'.id []
    status := .ready }.clampPage = v := ⟨_, rfl⟩
  have hfirst : v.visible = (v, [⟨7⟩]) := by
    rw [← hload]
    cbv
  have hsecond : (v.setPage 2).visible = (v.setPage 2, [⟨8⟩]) := by
    rw [← hload]
    cbv
  have hscope : v.scope = "library" := by
    rw [← hload]
    rfl
  have toggles₇ (s : SelectionStore MediaUnitId) :
      v.toggle s ⟨7⟩ false = (true, v, s.toggle "library" ⟨7⟩ 0 false [⟨7⟩]) := by
    rw [← hscope]
    exact LibraryView.toggle_of_visible s hfirst rfl
  have toggles₈ (s : SelectionStore MediaUnitId) : (v.setPage 2).toggle s ⟨8⟩ true =
      (true, v.setPage 2, s.toggle "library" ⟨8⟩ 0 true [⟨8⟩]) := by
    rw [← hscope]
    exact LibraryView.toggle_of_visible s hsecond rfl
  have hrun := (((((Runs.nil (d := start c (fun _ => "library") fun _ => {})).snoc
    (step_refresh (i := false) p u u' hload)).snoc (step_toggle (i := false) (toggles₇ _))).snoc
    (step_refresh (i := true) p u u' hload)).snoc (step_setPage (i := true) (rfl : v.setPage 2 = _))).snoc
    (step_toggle (i := true) (toggles₈ _))
  have h₇ : ((SelectionStore.empty.toggle "library" (⟨7⟩ : MediaUnitId) 0 false [⟨7⟩]).toggle
      "library" ⟨8⟩ 0 true [⟨8⟩]).isSelected "library" ⟨7⟩ = true := by decide
  have h₈ : ((SelectionStore.empty.toggle "library" (⟨7⟩ : MediaUnitId) 0 false [⟨7⟩]).toggle
      "library" ⟨8⟩ 0 true [⟨8⟩]).isSelected "library" ⟨8⟩ = true := by decide
  refine ⟨_, hrun, h₇, h₈, congrArg Prod.snd hsecond, ?_⟩
  obtain ⟨hshown, -⟩ := selected_were_visible hrun
  obtain ⟨before, i, op, after, w, w', hacts, hbefore, -, -, -, -, hvisible, -⟩ := hshown _ _ h₇
  exact ⟨before, i, op, after, w, hacts, hbefore, hvisible⟩

end SharedSession

end SubtitleCoverage
