import SubtitleCoverage.Clock
import SubtitleCoverage.Config
import SubtitleCoverage.Jobs.Board
import SubtitleCoverage.Jobs.Bus
import SubtitleCoverage.Listing.Selection

/-!
# Sessions

All views of a session share its configuration, the bus on which job events arrive, the progress
board and the selection. A pump carries the events from the bus to the board and announces every job
that finishes, so that the views can load again.

Time is counted in nanoseconds.

## Main definitions

* `Session` — what views share.
* `Session.applyEvent` — an event has arrived.
* `Session.pumpReceive`, `pumpTick` — the two things a pump does.
* `Session.pump` — a pump that works off some events.
-/

namespace SubtitleCoverage

/-- How many announcements of finished jobs are kept. -/
def announcementCapacity : Nat := 64

/-- What the views of a session share. -/
structure Session where
  config : Config := {}
  bus : Bus := .default
  board : Board := .empty
  selection : SelectionStore MediaUnitId := .empty
  /-- Announces the jobs that have finished. -/
  finished : Broadcast JobId := .ofCapacity announcementCapacity

namespace Session

/-- An event has arrived. If it ends a job, the job is announced. -/
def applyEvent (s : Session) (e : JobEvent) (now : Int) : Session :=
  let (outcome, board) := s.board.apply e now
  { s with
    board
    finished := if outcome = .finished then s.finished.send e.job else s.finished }

/-- How long a finished job stays on the board; 0 is for ever. -/
def dismissAfter (s : Session) : Nat := seconds s.config.progress.autoDismissSecs.toNat

/-- A pump takes the next event off the bus. -/
def pumpReceive (s : Session) (receiver : Nat) (now : Int) : Session :=
  match s.bus.receive receiver with
  | (.message e, bus) => { s with bus }.applyEvent e now
  | (_, bus) => { s with bus }

/-- A pump takes the jobs off the board that finished long ago. -/
def pumpTick (s : Session) (now : Int) : Session :=
  { s with board := (s.board.dismissExpired now s.dismissAfter).2 }

/-- A pump takes up to `count` events off the bus. -/
def pumpDrain (receiver : Nat) (now : Int) : Nat → Session → Session
  | 0, s => s
  | count + 1, s => pumpDrain receiver now count (s.pumpReceive receiver now)

/-- A pump is started, some events are published, and the pump works off what the bus has kept of
them; then it is stopped. -/
def pump (s : Session) (events : List JobEvent) (now : Int) : Session :=
  let (receiver, bus) := s.bus.subscribe
  -- The board is looked over before the first event is taken off the bus.
  let s := pumpDrain receiver now (events.length + 1)
    ({ s with bus := events.foldl Bus.publish bus }.pumpTick now)
  { s with bus := s.bus.unsubscribe receiver }

end Session

end SubtitleCoverage
