import SubtitleCoverage.Jobs.Board
import SubtitleCoverage.Library.View

/-!
# Changes asked for in a view

A view passes on what its user wants changed. It tells the user what has come of it by a notice, and
nothing else is different after a change that the backend has refused.

## Main definitions

* `LibraryView.setStatus`, `setStatusSelected` — the status of one unit, and of those selected.
* `LibraryView.deleteSidecar`, `blacklist` — other changes.
* `LibraryView.searchMissing`, `startBatchSelected` — batch jobs, which appear on the board.
-/

namespace SubtitleCoverage

/-- Changes the first member of a list that fulfils a condition. -/
def modifyFirst {α : Type} (p : α → Bool) (f : α → α) : List α → List α
  | [] => []
  | a :: as => if p a then f a :: as else a :: modifyFirst p f as

namespace LibraryView

/-! ### Units and sidecars -/

/-- Gives the first unit with an id a status. -/
def markStatus (v : LibraryView) (id : MediaUnitId) (status : MediaStatus) : LibraryView :=
  { v with units := modifyFirst (fun u => u.id = id) (fun u => { u with status }) v.units }

/-- Gives a unit a status. It is shown at once, and taken back if the backend refuses it. -/
def setStatus (v : LibraryView) (id : MediaUnitId) (status : MediaStatus) :
    Inquiry (Except Fault Unit × LibraryView) :=
  match v.units.find? fun u => u.id = id with
  | none => return (.error (.notFound "media unit" id.text), v)
  | some u => do
    match ← (Call.setStatus id status).perform with
    | .ok () => return (.ok (), v.markStatus id status)
    | .error f =>
      return (.error f, ((v.markStatus id status).markStatus id u.status).notify
        (.error ("Could not set status to " ++ status.name ++ ": " ++ f.message)))

/-- Gives some units a status, one after the other, and counts the changes that succeed. -/
def setStatuses (status : MediaStatus) :
    List MediaUnitId → LibraryView → Inquiry (Nat × LibraryView)
  | [], v => return (0, v)
  | id :: ids, v => do
    let (outcome, v) ← v.setStatus id status
    let (count, v) ← setStatuses status ids v
    return (match outcome with
      | .ok () => count + 1
      | .error _ => count, v)

/-- Gives the units that are shown and selected a status, and counts the changes that succeed. -/
def setStatusSelected (v : LibraryView) (s : SelectionStore MediaUnitId) (status : MediaStatus) :
    Inquiry (Nat × LibraryView) :=
  -- The ids are settled before the first change, which may move units out of the list.
  let (v, ids) := v.selectedVisible s
  setStatuses status ids v

/-- Deletes a sidecar of a unit. It is shown until the backend has deleted it. -/
def deleteSidecar (v : LibraryView) (id : MediaUnitId) (path : String) :
    Inquiry (Except Fault Unit × LibraryView) := do
  match ← (Call.deleteSidecar path).perform with
  | .error f =>
    return (.error f, v.notify (.error ("Could not delete " ++ path ++ ": " ++ f.message)))
  | .ok () =>
    let sidecars :=
      match v.sidecars.get? id with
      | some ss => v.sidecars.insert id (ss.filter fun s => s.path ≠ path)
      | none => v.sidecars
    return (.ok (), { v with sidecars }.notify (.info ("Deleted " ++ path)))

/-- Puts a subtitle of a provider onto the blacklist. -/
def blacklist (v : LibraryView) (entry : BlacklistEntry) :
    Inquiry (Except Fault Unit × LibraryView) := do
  match ← (Call.blacklist entry).perform with
  | .ok () =>
    return (.ok (), v.notify (.info
      ("Blacklisted " ++ entry.providerName ++ " subtitle " ++ entry.subtitleId)))
  | .error f =>
    return (.error f, v.notify (.error ("Could not blacklist subtitle: " ++ f.message)))

/-! ### Batch jobs -/

/-- What comes of asking for a batch job; there may be nothing to do. -/
structure BatchOutcome where
  result : Except Fault (Option BatchStarted)
  view : LibraryView
  board : Board

/-- Takes account of the answer to asking for a batch job, called `name` in the notice. -/
def takeBatch (v : LibraryView) (b : Board) (name : String) :
    Except Fault BatchStarted → BatchOutcome
  | .ok started => ⟨.ok (some started), v, b.dispatch started.job started.totalItems⟩
  | .error f => ⟨.error f, v.notify (.error ("Could not start " ++ name ++ ": " ++ f.message)), b⟩

/-- The items of a search for all missing pairs. -/
def missingItems (v : LibraryView) : List BatchItem :=
  v.missingPairs.map fun e => ⟨e.unitId, e.language⟩

/-- Starts a search for the missing pairs of all units loaded, shown or not. -/
def searchMissing (v : LibraryView) (b : Board) : Inquiry BatchOutcome := do
  if v.profile.isNone then return ⟨.error (.validation .profileNotLoaded), v, b⟩
  else if v.missingItems = [] then
    return ⟨.ok none, v.notify (.info "Nothing is missing"), b⟩
  else
    return v.takeBatch b "search"
      (← (Call.startLanguageBatch v.scope v.missingItems).perform)

/-- Starts a batch job for the units that are shown and selected. -/
def startBatchSelected (v : LibraryView) (s : SelectionStore MediaUnitId) (b : Board) :
    Inquiry BatchOutcome := do
  let (v, ids) := v.selectedVisible s
  if ids = [] then return ⟨.ok none, v, b⟩
  else return v.takeBatch b "batch" (← (Call.startBatch v.scope (some ids)).perform)

end LibraryView

end SubtitleCoverage
