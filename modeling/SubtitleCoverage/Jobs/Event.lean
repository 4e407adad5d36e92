import SubtitleCoverage.Media.Wire
import SubtitleCoverage.Uuid

/-!
# Events of batch jobs

While a batch job runs, the backend sends events: reports of progress, and one that the job has
finished. They may be lost, repeated or arrive in any order.

## Main definitions

* `JobEvent` — the events, with `job` and `isTerminal`.
* `JobEvent.toJson`, `JobEvent.ofJson?` — events in JSON, where a member `type` tells the kinds
  apart.
* `StampedEvent` — an event with a name and the time at which it arrived.
-/

namespace SubtitleCoverage

open Json

/-- A report on a batch job. -/
structure ProgressReport where
  job : JobId
  /-- The number of the report, if the backend numbers them. -/
  sequence : Option UInt64 := none
  current : UInt64
  total : UInt64
  completed : UInt64 := 0
  failed : UInt64 := 0
deriving DecidableEq, Repr

/-- The final account of a batch job. -/
structure FinalReport where
  job : JobId
  succeeded : UInt64
  failed : UInt64 := 0
  skipped : UInt64 := 0
deriving DecidableEq, Repr

/-- An event of a batch job. -/
inductive JobEvent where
  | progress (r : ProgressReport)
  | finished (r : FinalReport)
deriving DecidableEq, Repr

/-- What orders the reports on a job: their numbers, or how far the job has come. -/
def ProgressReport.key (r : ProgressReport) : UInt64 := r.sequence.getD r.current

namespace JobEvent

/-- The job that an event belongs to. -/
def job : JobEvent → JobId
  | .progress r => r.job
  | .finished r => r.job

/-- Whether an event ends its job. -/
def isTerminal : JobEvent → Bool
  | .progress _ => false
  | .finished _ => true

end JobEvent

/-! ### Names in JSON -/

/-- A universal name in JSON. -/
def Uuid.toJson (i : Uuid) : Json := .str i.text

/-- The universal name of a JSON value. -/
def Uuid.ofJson? (j : Json) : Option Uuid := (asText? j).bind ofText?

/-- A job in JSON. -/
def JobId.toJson (i : JobId) : Json := i.uuid.toJson

/-- The job of a JSON value. -/
def JobId.ofJson? (j : Json) : Option JobId := (Uuid.ofJson? j).map .mk

/-! ### Events in JSON -/

/-- The names of the fields of a report. -/
def ProgressReport.fieldNames : List String :=
  ["jobId", "sequence", "current", "total", "completed", "failed"]

/-- The report of a JSON value without the member that tells its kind. -/
def ProgressReport.ofJson? (j : Json) : Option ProgressReport := do
  let r ← fields? fieldNames j
  return {
    job := ← r.required "jobId" JobId.ofJson?
    sequence := ← r.withDefault "sequence" none (asOption? asUInt64?)
    current := ← r.required "current" asUInt64?
    total := ← r.required "total" asUInt64?
    completed := ← r.withDefault "completed" 0 asUInt64?
    failed := ← r.withDefault "failed" 0 asUInt64? }

/-- The names of the fields of a final account. -/
def FinalReport.fieldNames : List String := ["jobId", "succeeded", "failed", "skipped"]

/-- The final account of a JSON value without the member that tells its kind. -/
def FinalReport.ofJson? (j : Json) : Option FinalReport := do
  let r ← fields? fieldNames j
  return {
    job := ← r.required "jobId" JobId.ofJson?
    succeeded := ← r.required "succeeded" asUInt64?
    failed := ← r.withDefault "failed" 0 asUInt64?
    skipped := ← r.withDefault "skipped" 0 asUInt64? }

namespace JobEvent

/-- An event in JSON. -/
def toJson : JobEvent → Json
  | .progress r =>
    .obj [("type", .str "progress"), ("jobId", r.job.toJson),
      ("sequence", ofOption ofUInt64 r.sequence), ("current", ofUInt64 r.current),
      ("total", ofUInt64 r.total), ("completed", ofUInt64 r.completed),
      ("failed", ofUInt64 r.failed)]
  | .finished r =>
    .obj [("type", .str "finished"), ("jobId", r.job.toJson), ("succeeded", ofUInt64 r.succeeded),
      ("failed", ofUInt64 r.failed), ("skipped", ofUInt64 r.skipped)]

/-- The kind of an event and its other parts: of an object the member `type`, which has to be there
once, of an array the first element. -/
def splitKind? : Json → Option (String × Json)
  | .obj ms =>
    match ms.filter fun m => m.1 == "type" with
    | [(_, .str kind)] => some (kind, .obj (ms.filter fun m => m.1 != "type"))
    | _ => none
  | .arr (.str kind :: xs) => some (kind, .arr xs)
  | _ => none

/-- The event of a JSON value that stands `outer` levels deep in a text. The kind may come last, so
the whole value has to be kept until then. -/
def ofJson? (j : Json) (outer : Nat := 0) : Option JobEvent := do
  guard (j.fits (127 - outer))
  match ← splitKind? j with
  | ("progress", j) => (ProgressReport.ofJson? j).map .progress
  | ("finished", j) => (FinalReport.ofJson? j).map .finished
  | _ => none

end JobEvent

/-! ### Stamped events -/

/-- An event with a name of its own and the time at which it arrived. -/
structure StampedEvent where
  id : Uuid
  timestamp : Timestamp
  payload : JobEvent
deriving DecidableEq

/-- A stamped event in JSON. -/
def StampedEvent.toJson (e : StampedEvent) : Json :=
  .obj [("id", e.id.toJson), ("timestamp", e.timestamp.toJson), ("payload", e.payload.toJson)]

/-- The stamped event of a JSON value. -/
def StampedEvent.ofJson? (j : Json) : Option StampedEvent := do
  let r ← fields? ["id", "timestamp", "payload"] j
  return {
    id := ← r.required "id" Uuid.ofJson?
    timestamp := ← r.required "timestamp" Timestamp.ofJson?
    payload := ← r.required "payload" (JobEvent.ofJson? · 1) }

end SubtitleCoverage
