import SubtitleCoverage.Jobs.Event

/-!
# The progress board

The board shows how far the batch jobs have come. A job gets onto it when the backend accepts it or
when the first event of it arrives, whichever is earlier. Reports that are not newer than what is
shown are passed over; a final account always counts. A job that is taken off the board is
remembered for a while, so that a late event does not put it back.

Time is counted in nanoseconds.

## Main definitions

* `JobPhase`, `JobProgress` — how far a job has come.
* `Board` — the jobs shown and the jobs taken off.
* `Board.dispatch`, `apply`, `dismiss`, `dismissExpired` — what changes the board.
-/

namespace SubtitleCoverage

/-! ### Jobs -/

/-- The phases of a batch job. -/
inductive JobPhase where
  /-- The job is not on the board. -/
  | idle
  /-- The backend has accepted the job; no event has arrived. -/
  | dispatched
  | running
  | terminal
deriving DecidableEq, Repr, Inhabited

/-- The name of a phase. -/
def JobPhase.name : JobPhase → String
  | .idle => "idle"
  | .dispatched => "dispatched"
  | .running => "running"
  | .terminal => "terminal"

/-- How far a batch job has come. -/
structure JobProgress where
  job : JobId
  phase : JobPhase
  total : UInt64
  current : UInt64 := 0
  completed : UInt64 := 0
  failed : UInt64 := 0
  skipped : UInt64 := 0
  running : Bool
  /-- The key of the newest report. -/
  lastSequence : Option UInt64 := none
  /-- When the final account arrived. -/
  finishedAt : Option Int := none
deriving DecidableEq, Repr

/-- The sum of two numbers, or the largest number if that is smaller. -/
def addSaturating (a b : UInt64) : UInt64 := if a ≤ a + b then a + b else .ofNat (UInt64.size - 1)

namespace JobProgress

/-- A job of which nothing is known but its number of items. -/
def start (job : JobId) (phase : JobPhase) (total : UInt64) : JobProgress :=
  { job, phase, total, running := phase ≠ .terminal }

/-- The share of a job that is done, between 0 and 1. A job without items is done when it has
finished. -/
def fraction (p : JobProgress) : Float :=
  if p.total = 0 then (if p.phase = .terminal then 1 else 0)
  else
    let f := p.current.toFloat / p.total.toFloat
    if f > 1 then 1 else f

/-- Whether a report is newer than what is known of the job. -/
def isNews (p : JobProgress) (r : ProgressReport) : Bool := p.lastSequence.all (· < r.key)

/-- The job once the backend has said that it has `total` items. Reports that came before may have
left the number open. -/
def expect (p : JobProgress) (total : UInt64) : JobProgress :=
  if p.total = 0 then { p with total } else p

/-- The job after a report. -/
def advance (p : JobProgress) (r : ProgressReport) : JobProgress :=
  { p with
    phase := .running
    running := true
    lastSequence := some r.key
    current := r.current
    completed := r.completed
    failed := r.failed
    total := if r.total = 0 then p.total else r.total }

/-- The job after its final account. -/
def finish (p : JobProgress) (r : FinalReport) (now : Int) : JobProgress :=
  let processed := addSaturating (addSaturating r.succeeded r.failed) r.skipped
  { p with
    phase := .terminal
    running := false
    completed := r.succeeded
    failed := r.failed
    skipped := r.skipped
    current := processed
    total := max p.total processed
    finishedAt := some now }

/-- Whether the final account arrived at least `after` ago. -/
def isDue (p : JobProgress) (now : Int) (after : Nat) : Bool :=
  p.finishedAt.any fun t => after ≤ now - t

end JobProgress

/-! ### The board -/

/-- What an event did to the board. -/
inductive Outcome where
  | progressed
  /-- The report was not newer than what is shown. -/
  | stale
  /-- The job had finished, or was taken off the board. -/
  | afterTerminal
  | finished
deriving DecidableEq, Repr

/-- How many jobs taken off the board are remembered. -/
def retiredCapacity : Nat := 256

/-- The jobs shown, and the jobs taken off, the latest of these last. -/
structure Board where
  jobs : OrderedMap JobId JobProgress := .empty
  retired : List JobId := []
deriving DecidableEq

namespace Board

/-- The board without jobs. -/
def empty : Board := {}

/-- The backend has accepted a job with `total` items. Events of the job may have come before. -/
def dispatch (b : Board) (job : JobId) (total : UInt64) : Board :=
  let p := (b.jobs.get? job).getD (.start job .dispatched total)
  ⟨b.jobs.insert job (p.expect total), b.retired.filter (· ≠ job)⟩

/-- A report on a job has arrived. -/
def applyProgress (b : Board) (r : ProgressReport) : Outcome × Board :=
  -- A job that nobody has dispatched here starts with its first report.
  let p := (b.jobs.get? r.job).getD (.start r.job .running r.total)
  if p.phase = .terminal then (.afterTerminal, b)
  else if p.isNews r then (.progressed, { b with jobs := b.jobs.insert r.job (p.advance r) })
  else (.stale, b)

/-- The final account of a job has arrived. -/
def applyFinished (b : Board) (r : FinalReport) (now : Int) : Outcome × Board :=
  let p := (b.jobs.get? r.job).getD (.start r.job .terminal 0)
  (.finished, { b with jobs := b.jobs.insert r.job (p.finish r now) })

/-- An event has arrived. Events of jobs taken off the board are passed over. -/
def apply (b : Board) (e : JobEvent) (now : Int) : Outcome × Board :=
  if e.job ∈ b.retired then (.afterTerminal, b)
  else
    match e with
    | .progress r => b.applyProgress r
    | .finished r => b.applyFinished r now

/-- The queue of jobs taken off with one more; the oldest is forgotten if there are too many. -/
def enqueue (retired : List JobId) (job : JobId) : List JobId :=
  (if retired.length = retiredCapacity then retired.tail else retired) ++ [job]

/-- Takes a job that is shown off the board. -/
def retire (b : Board) (job : JobId) : Board := ⟨b.jobs.erase job, enqueue b.retired job⟩

/-- Takes a job off the board, if it is shown. -/
def dismiss (b : Board) (job : JobId) : Bool × Board :=
  if b.jobs.contains job then (true, b.retire job) else (false, b)

/-- The jobs that finished at least `after` ago; none if `after` is 0. -/
def expired (b : Board) (now : Int) (after : Nat) : List JobId :=
  if after = 0 then [] else (b.jobs.values.filter (·.isDue now after)).map (·.job)

/-- Takes the jobs off the board that finished at least `after` ago; never if `after` is 0. -/
def dismissExpired (b : Board) (now : Int) (after : Nat) : List JobId × Board :=
  (b.expired now after, (b.expired now after).foldl retire b)

/-- What the board shows of a job. -/
def get? (b : Board) (job : JobId) : Option JobProgress := b.jobs.get? job

/-- The phase of a job. -/
def phase (b : Board) (job : JobId) : JobPhase := ((b.get? job).map (·.phase)).getD .idle

/-- Whether some job is running or about to. -/
def anyRunning (b : Board) : Bool := b.jobs.values.any (·.running)

/-- The jobs shown, by name. -/
def toList (b : Board) : List JobProgress := b.jobs.values

end Board

open Json in
/-- The progress of a job in JSON. -/
def JobProgress.toJson (p : JobProgress) : Json :=
  .obj [("jobId", p.job.toJson), ("phase", .str p.phase.name), ("total", ofUInt64 p.total),
    ("current", ofUInt64 p.current), ("completed", ofUInt64 p.completed),
    ("failed", ofUInt64 p.failed), ("skipped", ofUInt64 p.skipped), ("running", .bool p.running),
    ("lastSequence", ofOption ofUInt64 p.lastSequence)]

end SubtitleCoverage
