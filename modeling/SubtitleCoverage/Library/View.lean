import SubtitleCoverage.Backend.Call
import SubtitleCoverage.Config
import SubtitleCoverage.Coverage.Summary
import SubtitleCoverage.Library.Notice
import SubtitleCoverage.Listing.Page
import SubtitleCoverage.Listing.Query
import SubtitleCoverage.Listing.SearchBox
import SubtitleCoverage.Listing.Selection

/-!
# Views of the library

A view shows a list of media units: those that were loaded last, narrowed down and sorted by a
query, a page at a time, each with its coverage. What is selected is kept outside of the view, in a
store that all views share; each view has a scope of its own there.

## Main definitions

* `LibraryView` — the views.
* `LibraryView.matching`, `visible`, `rows` — what is shown.
* `LibraryView.setFilters`, `setSort`, `setPage` and the search — what changes the query.
* `LibraryView.toggle`, `selectVisible`, `clearSelection`, `selectedVisible` — the selection.
-/

namespace SubtitleCoverage

/-- A view of the library. -/
structure LibraryView where
  /-- The name under which the rows of the view are selected. -/
  scope : String
  profileId : ProfileId
  /-- Which units the backend is asked for. -/
  filters : MediaFilters := {}
  /-- The page of the backend that a plain refresh loads. -/
  serverPage : UInt32 := 1
  units : List MediaUnit := []
  sidecars : OrderedMap MediaUnitId (List Sidecar) := .empty
  profile : Option LanguageProfile := none
  status : ViewStatus := .loading
  notices : List Notice := []
  query : ListQuery := {}
  searchBox : SearchBox := {}
  paginator : Paginator
deriving DecidableEq

namespace LibraryView

/-- The sort order that a configuration asks for; an unknown key gives way to the title. -/
def defaultSort (c : ViewConfig) : SortSpec :=
  ⟨(SortKey.ofText c.defaultSort).toOption.getD .title, c.descending⟩

/-- The view with a scope before anything has been loaded. -/
def new (scope : String) (c : Config) : LibraryView :=
  { scope
    profileId := ⟨c.profileId⟩
    query := { sort := defaultSort c.view }
    paginator := .ofSize c.view.pageSize }

/-! ### What is shown -/

/-- The units that match the query, in order. -/
def matching (v : LibraryView) : List MediaUnit := v.query.apply v.units

/-- The number of units that match the query. -/
def length (v : LibraryView) : UInt64 := UInt64.ofNat v.matching.length

/-- Goes back to the last page if there are fewer pages now. -/
def clampPage (v : LibraryView) : LibraryView :=
  { v with paginator := v.paginator.clamp v.length }

/-- The units on the current page, after going back to the last page if need be. -/
def pageUnits (v : LibraryView) : LibraryView × List MediaUnit :=
  let (paginator, us) := v.paginator.slice v.matching
  ({ v with paginator }, us)

/-- The ids of the units on the current page. -/
def visible (v : LibraryView) : LibraryView × List MediaUnitId :=
  let (v, us) := v.pageUnits
  (v, us.map (·.id))

/-- The sidecars of a unit. -/
def sidecarsOf (v : LibraryView) (id : MediaUnitId) : List Sidecar := (v.sidecars.get? id).getD []

/-- The coverage of a unit; nothing is known without a profile. -/
def coverage (v : LibraryView) (u : MediaUnit) : Resolution :=
  match v.profile with
  | some p => resolve u (v.sidecarsOf u.id) p
  | none => {}

/-- The units on the current page as they are shown. -/
def rows (v : LibraryView) (s : SelectionStore MediaUnitId) : LibraryView × List Row :=
  let (v, us) := v.pageUnits
  (v, us.map fun u => ⟨u, v.coverage u, s.isSelected v.scope u.id⟩)

/-- Where the current page stands. -/
def pageInfo (v : LibraryView) : PageInfo := v.paginator.info v.length

/-- The totals of all units loaded, shown or not. -/
def summary (v : LibraryView) : Summary :=
  match v.profile with
  | some p => summarize v.units p
  | none => {}

/-- The missing pairs of all units loaded, shown or not. -/
def missingPairs (v : LibraryView) : List MissingPair :=
  match v.profile with
  | some p => SubtitleCoverage.missingPairs v.units p
  | none => []

/-- Hands over the notices. -/
def takeNotices (v : LibraryView) : LibraryView × List Notice :=
  ({ v with notices := [] }, v.notices)

/-- Adds a notice. -/
def notify (v : LibraryView) (n : Notice) : LibraryView := { v with notices := v.notices ++ [n] }

/-! ### The query -/

/-- Makes another profile count from the next load on. -/
def setProfile (v : LibraryView) (id : ProfileId) : LibraryView := { v with profileId := id }

/-- Makes a plain refresh load another page of the backend. -/
def setServerPage (v : LibraryView) (page : UInt32) : LibraryView :=
  { v with serverPage := max page 1 }

/-- Narrows the list down by other filters. -/
def setFilters (v : LibraryView) (filters : List Filter) : LibraryView :=
  { v with query := { v.query with filters } }.clampPage

/-- Sorts the list anew. -/
def setSort (v : LibraryView) (sort : SortSpec) : LibraryView :=
  { v with query := { v.query with sort } }

/-- Goes to a page. -/
def setPage (v : LibraryView) (page : UInt64) : LibraryView :=
  { v with paginator := v.paginator.setPage page v.length }

/-- Something is typed into the search box. -/
def inputSearch (v : LibraryView) (text : String) (time : Int) : LibraryView :=
  { v with searchBox := v.searchBox.input text time }

/-- Searches for the text that the search box gives out, if it does. -/
def applySearch (v : LibraryView) : Option String × SearchBox → Bool × LibraryView
  | (none, searchBox) => (false, { v with searchBox })
  | (some search, searchBox) =>
    (true, { v with searchBox, query := { v.query with search } }.clampPage)

/-- Searches for what was typed, if enough time has passed. -/
def pollSearch (v : LibraryView) (now : Int) : Bool × LibraryView :=
  v.applySearch (v.searchBox.poll now)

/-- Searches for what was typed. -/
def submitSearch (v : LibraryView) : Bool × LibraryView := v.applySearch v.searchBox.flush

/-! ### The selection -/

/-- Toggles a row, or all rows from the one toggled before. Rows that are not shown stay as they
are. -/
def toggle (v : LibraryView) (s : SelectionStore MediaUnitId) (id : MediaUnitId) (range : Bool) :
    Bool × LibraryView × SelectionStore MediaUnitId :=
  let (v, ids) := v.visible
  match ids.idxOf? id with
  | some place => (true, v, s.toggle v.scope id place range ids)
  | none => (false, v, s)

/-- Selects the rows that are shown and no others. -/
def selectVisible (v : LibraryView) (s : SelectionStore MediaUnitId) :
    LibraryView × SelectionStore MediaUnitId :=
  let (v, ids) := v.visible
  (v, s.selectAll v.scope ids)

/-- Selects no row. -/
def clearSelection (v : LibraryView) (s : SelectionStore MediaUnitId) :
    SelectionStore MediaUnitId :=
  s.clear v.scope

/-- The ids of the rows that are shown and selected, in order. -/
def selectedVisible (v : LibraryView) (s : SelectionStore MediaUnitId) :
    LibraryView × List MediaUnitId :=
  let (v, ids) := v.visible
  (v, s.selectedVisible v.scope ids)

end LibraryView

end SubtitleCoverage
