import SubtitleCoverage.Coverage.Resolution

/-!
# What a view tells its user

Beside its rows a view shows how fresh they are, and notices about what the user has asked for.

## Main definitions

* `ViewStatus` — how fresh the rows are.
* `Notice` — a message to the user.
* `Row` — a media unit as it is shown.
-/

namespace SubtitleCoverage

/-- How fresh the rows of a view are. -/
inductive ViewStatus where
  /-- Nothing has been loaded. -/
  | loading
  | ready
  /-- The last load failed; the rows are those of an earlier one. -/
  | degraded (message : String) (retryable : Bool)
deriving DecidableEq, Repr

/-- The status after a load that ran into a fault, or into none. -/
def ViewStatus.ofFault? : Option Fault → ViewStatus
  | none => .ready
  | some f => .degraded f.message f.isRetryable

/-- How serious a notice is. -/
inductive NoticeLevel where
  | info
  | error
deriving DecidableEq, Repr

/-- A message to the user. -/
structure Notice where
  level : NoticeLevel
  message : String
deriving DecidableEq, Repr

namespace Notice

/-- A notice of something that went well. -/
def info (message : String) : Notice := ⟨.info, message⟩

/-- A notice of something that failed. -/
def error (message : String) : Notice := ⟨.error, message⟩

end Notice

/-- A media unit as it is shown. -/
structure Row where
  unit : MediaUnit
  resolution : Resolution
  selected : Bool
deriving DecidableEq

end SubtitleCoverage
