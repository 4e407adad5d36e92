import SubtitleCoverage.Library.Change
import SubtitleCoverage.Library.Load
import SubtitleCoverage.Proofs.Backend.Exchanges
import SubtitleCoverage.Proofs.Library.Changes
import SubtitleCoverage.Proofs.Library.Loading

/-!
# Operations on a view

Whatever can change a view is an operation here.  An operation is a dialogue with the backend that
turns a view into a view, together with the selection and the board; these two belong to all views,
so that nothing is known of them when the next operation begins.

## Main definitions

* `Workspace` — a view and what it shares with others.
* `Operation`, `Operation.perform` — what can change a view, and what comes of it.
* `Operation.Searches` — the operations that have to do with the search box.
* `LibraryView.Step`, `LibraryView.Runs` — one operation, and any number of them.
* `LibraryView.newFor` — the views that operations begin with.

## Main results

* `Operation.ends_refresh_pair`, `ends_refresh` — a load of two units succeeds.
* `Operation.searchState_of_ends` — the other operations leave the scope, the search box and the text
  searched for as they are.
-/

namespace SubtitleCoverage

open Dialogue

/-- A view, and what it shares with other views. -/
structure Workspace where
  view : LibraryView
  selection : SelectionStore MediaUnitId
  board : Board

/-- What can change a view.  Looking at the rows does, since it may go back to the last page. -/
inductive Operation where
  | refresh
  | refreshAll
  | setProfile (id : ProfileId)
  | setServerPage (page : UInt32)
  | setFilters (filters : List Filter)
  | setSort (sort : SortSpec)
  | setPage (page : UInt64)
  | inputSearch (text : String) (time : Int)
  | pollSearch (now : Int)
  | submitSearch
  | visible
  | rows
  | takeNotices
  | toggle (id : MediaUnitId) (range : Bool)
  | selectVisible
  | clearSelection
  | selectedVisible
  | setStatus (id : MediaUnitId) (status : MediaStatus)
  | setStatusSelected (status : MediaStatus)
  | deleteSidecar (id : MediaUnitId) (path : String)
  | blacklist (entry : BlacklistEntry)
  | searchMissing
  | startBatchSelected

namespace Operation

/-- What an operation makes of a view and of what it shares. -/
def perform : Operation → Workspace → Inquiry Workspace
  | .refresh, w => do return { w with view := ← w.view.refresh }
  | .refreshAll, w => do return { w with view := ← w.view.refreshAll }
  | .setProfile id, w => return { w with view := w.view.setProfile id }
  | .setServerPage page, w => return { w with view := w.view.setServerPage page }
  | .setFilters filters, w => return { w with view := w.view.setFilters filters }
  | .setSort sort, w => return { w with view := w.view.setSort sort }
  | .setPage page, w => return { w with view := w.view.setPage page }
  | .inputSearch text time, w => return { w with view := w.view.inputSearch text time }
  | .pollSearch now, w => return { w with view := (w.view.pollSearch now).2 }
  | .submitSearch, w => return { w with view := w.view.submitSearch.2 }
  | .visible, w => return { w with view := w.view.visible.1 }
  | .rows, w => return { w with view := (w.view.rows w.selection).1 }
  | .takeNotices, w => return { w with view := w.view.takeNotices.1 }
  | .toggle id range, w =>
    let (_, view, selection) := w.view.toggle w.selection id range
    return { w with view, selection }
  | .selectVisible, w =>
    let (view, selection) := w.view.selectVisible w.selection
    return { w with view, selection }
  | .clearSelection, w => return { w with selection := w.view.clearSelection w.selection }
  | .selectedVisible, w => return { w with view := (w.view.selectedVisible w.selection).1 }
  | .setStatus id status, w => do return { w with view := (← w.view.setStatus id status).2 }
  | .setStatusSelected status, w => do
    return { w with view := (← w.view.setStatusSelected w.selection status).2 }
  | .deleteSidecar id path, w => do return { w with view := (← w.view.deleteSidecar id path).2 }
  | .blacklist entry, w => do return { w with view := (← w.view.blacklist entry).2 }
  | .searchMissing, w => do
    let o ← w.view.searchMissing w.board
    return { w with view := o.view, board := o.board }
  | .startBatchSelected, w => do
    let o ← w.view.startBatchSelected w.selection w.board
    return { w with view := o.view, board := o.board }

/-- A profile and two units can be loaded, whatever comes of asking for the sidecars of these. -/
theorem ends_refresh_pair (w : Workspace) (p : LanguageProfile) (u u' : MediaUnit)
    (answer answer' : LibraryView.SidecarOutcome) :
    Ends (perform .refresh w)
      [⟨.profile w.view.profileId, .ok p⟩,
        ⟨.units w.view.serverPage serverPageSize w.view.filters, .ok ⟨[u, u'], 2, 1, 1⟩⟩,
        ⟨.sidecars u.id, answer⟩, ⟨.sidecars u'.id, answer'⟩]
      { w with view := { w.view with
          profile := some p
          units := [u, u']
          sidecars := ([(u.id, answer), (u'.id, answer')].foldl LibraryView.Inventory.record
            ⟨w.view.sidecars, .empty⟩).now
          status := .ready }.clampPage } :=
  .ask (.ask (.ask (.ask (.done _))))

/-- A profile and two units without sidecars can be loaded. -/
theorem ends_refresh (w : Workspace) (p : LanguageProfile) (u u' : MediaUnit) :
    Ends (perform .refresh w)
      [⟨.profile w.view.profileId, .ok p⟩,
        ⟨.units w.view.serverPage serverPageSize w.view.filters, .ok ⟨[u, u'], 2, 1, 1⟩⟩,
        ⟨.sidecars u.id, .ok []⟩, ⟨.sidecars u'.id, .ok []⟩]
      { w with view := { w.view with
          profile := some p
          units := [u, u']
          sidecars := (OrderedMap.empty.insert u.id []).insert u'.id []
          status := .ready }.clampPage } :=
  ends_refresh_pair w p u u' (.ok []) (.ok [])

end Operation

/-! ### What most operations leave as it is -/

namespace LibraryView

/-- The scope, the search box, and the text that is searched for. -/
def searchState (v : LibraryView) : String × SearchBox × String :=
  (v.scope, v.searchBox, v.query.search)

theorem searchState_takeBatch (v : LibraryView) (b : Board) (name : String)
    (answer : Except Fault BatchStarted) :
    (v.takeBatch b name answer).view.searchState = v.searchState := by
  cases answer with
  | ok _ => rfl
  | error _ => rfl

theorem searchState_toggle (v : LibraryView) (s : SelectionStore MediaUnitId) (id : MediaUnitId)
    (range : Bool) : (v.toggle s id range).2.1.searchState = v.searchState := by
  unfold toggle
  simp only
  split
  · rfl
  · rfl

end LibraryView

namespace Operation

/-- The operations that have to do with the search box. -/
def Searches : Operation → Prop
  | .inputSearch .. | .pollSearch _ | .submitSearch => True
  | _ => False

/-- **All other operations leave the scope, the search box and the text searched for as they are.** -/
theorem searchState_of_ends {op : Operation} {w w' : Workspace}
    {exchange : List ((c : Call) × c.Outcome)} (h : Ends (op.perform w) exchange w')
    (hop : ¬op.Searches) : w'.view.searchState = w.view.searchState := by
  cases op with
  | refresh | refreshAll =>
    obtain ⟨v', hload, rfl⟩ := ends_map_iff.1 h
    have hframe := LibraryView.frame_of_ends_load hload
    show v'.searchState = w.view.searchState
    rw [hframe]
    rfl
  | setProfile _ | setServerPage _ | setFilters _ | setSort _ | setPage _ | visible | rows
  | takeNotices | selectVisible | clearSelection | selectedVisible =>
    obtain ⟨-, rfl⟩ := ends_done_iff.1 h
    rfl
  | inputSearch _ _ | pollSearch _ | submitSearch => exact absurd trivial hop
  | toggle id range =>
    obtain ⟨-, rfl⟩ := ends_done_iff.1 h
    exact LibraryView.searchState_toggle ..
  | setStatus id status =>
    obtain ⟨out, hout, rfl⟩ := ends_map_iff.1 h
    have hframe := LibraryView.frame_of_ends_setStatus hout
    show out.2.searchState = w.view.searchState
    rw [hframe]
    rfl
  | setStatusSelected status =>
    -- the frame is that of the view gone back to its last page, where the search is the same
    obtain ⟨out, hout, rfl⟩ := ends_map_iff.1 h
    have hframe := LibraryView.frame_of_ends_setStatuses _ hout
    show out.2.searchState = w.view.searchState
    rw [hframe]
    rfl
  | deleteSidecar id path =>
    obtain ⟨out, hout, rfl⟩ := ends_map_iff.1 h
    obtain ⟨answer, -, ⟨f, -, rfl⟩ | ⟨-, rfl⟩⟩ := LibraryView.ends_deleteSidecar hout
    · rfl
    · rfl
  | blacklist entry =>
    obtain ⟨out, hout, rfl⟩ := ends_map_iff.1 h
    obtain ⟨answer, -, ⟨f, -, rfl⟩ | ⟨-, rfl⟩⟩ := LibraryView.ends_blacklist hout
    · rfl
    · rfl
  | searchMissing =>
    obtain ⟨o, hout, rfl⟩ := ends_map_iff.1 h
    rcases LibraryView.ends_searchMissing hout with
      ⟨-, -, rfl⟩ | ⟨-, -, -, rfl⟩ | ⟨-, -, answer, -, rfl⟩
    · rfl
    · rfl
    · exact LibraryView.searchState_takeBatch ..
  | startBatchSelected =>
    obtain ⟨o, hout, rfl⟩ := ends_map_iff.1 h
    rcases LibraryView.ends_startBatchSelected hout with ⟨-, -, rfl⟩ | ⟨-, answer, -, rfl⟩
    · rfl
    · exact LibraryView.searchState_takeBatch ..

end Operation

namespace LibraryView

/-- An operation can turn one view into another one, whatever the backend answers and whatever is
selected. -/
def Step (v : LibraryView) (op : Operation) (v' : LibraryView) : Prop :=
  ∃ selection board exchange w, Ends (op.perform ⟨v, selection, board⟩) exchange w ∧ w.view = v'

/-- Some operations, one after the other, can turn one view into another one. -/
inductive Runs (v : LibraryView) : List Operation → LibraryView → Prop where
  | nil : Runs v [] v
  | snoc {ops : List Operation} {op : Operation} {v' v'' : LibraryView} (h : Runs v ops v')
    (hstep : v'.Step op v'') : Runs v (ops ++ [op]) v''

/-- The view with a scope before anything has been loaded, of the units that are asked for. -/
def newFor (scope : String) (c : Config) (filters : MediaFilters) : LibraryView :=
  { new scope c with filters }

end LibraryView

end SubtitleCoverage
