import SubtitleCoverage.Backend.Dialogue
import SubtitleCoverage.Fault
import SubtitleCoverage.Media.Basic
import SubtitleCoverage.Profile.Basic
import SubtitleCoverage.Uuid

/-!
# Calls to the backend

Everything the library asks of its backend is a `Call`, and every call has its kind of answer. What
the library does is a dialogue of calls, so that nothing is said about who answers them.

## Main definitions

* `MediaFilters`, `Page` — what pages of media units are asked for, and what comes back.
* `BlacklistEntry`, `BatchItem`, `BatchStarted` — what goes into other calls and comes out of them.
* `Call`, `Call.Answer` — the calls and their answers.
* `Inquiry` — the dialogues of calls, each of which may fail.
-/

namespace SubtitleCoverage

/-! ### Parts of calls -/

/-- A page of records. -/
structure Page (α : Type) where
  data : List α
  /-- The number of records on all pages. -/
  total : UInt64
  /-- The number of the page, counted from 1. -/
  page : UInt32
  totalPages : UInt32
deriving DecidableEq

/-- The page of a list without records. -/
def Page.empty {α : Type} : Page α := ⟨[], 0, 1, 0⟩

/-- Which media units the backend is asked for. -/
structure MediaFilters where
  hasFile : Option Bool := none
  status : Option MediaStatus := none
  seriesId : Option Int64 := none
deriving DecidableEq, Repr

/-- A subtitle of a provider that is not to be downloaded again. -/
structure BlacklistEntry where
  providerName : String
  subtitleId : String
  language : String
  mediaUnitId : Option MediaUnitId := none
  filePath : Option String := none
deriving DecidableEq, Repr

/-- A media unit and a language for which a batch seeks subtitles. -/
structure BatchItem where
  mediaUnitId : MediaUnitId
  language : String
deriving DecidableEq, Repr

/-- A batch that the backend has accepted. -/
structure BatchStarted where
  job : JobId
  /-- The number of items that the backend expects to work off. -/
  totalItems : UInt64
deriving DecidableEq, Repr

/-! ### Calls -/

/-- What is asked of the backend. -/
inductive Call where
  | units (page pageSize : UInt32) (filters : MediaFilters)
  | sidecars (id : MediaUnitId)
  | profile (id : ProfileId)
  | setStatus (id : MediaUnitId) (status : MediaStatus)
  | blacklist (entry : BlacklistEntry)
  | deleteSidecar (path : String)
  /-- A batch over some units, or over the whole scope. -/
  | startBatch (scope : String) (ids : Option (List MediaUnitId))
  | startLanguageBatch (scope : String) (items : List BatchItem)
deriving DecidableEq, Repr

/-- What a call is answered with. -/
def Call.Answer : Call → Type
  | .units .. => Page MediaUnit
  | .sidecars _ => List Sidecar
  | .profile _ => LanguageProfile
  | .setStatus .. | .blacklist _ | .deleteSidecar _ => Unit
  | .startBatch .. | .startLanguageBatch .. => BatchStarted

/-- What comes of a call. -/
abbrev Call.Outcome (c : Call) : Type := Except Fault c.Answer

/-- A dialogue of calls. -/
abbrev Inquiry (α : Type) : Type := Dialogue Call.Outcome α

/-- A single call. -/
def Call.perform (c : Call) : Inquiry (Except Fault c.Answer) := .question c

end SubtitleCoverage
