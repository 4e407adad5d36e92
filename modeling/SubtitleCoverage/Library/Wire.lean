import SubtitleCoverage.Coverage.Wire
import SubtitleCoverage.Library.Notice

/-!
# What a view shows, in JSON

How the status of a view, its notices and its rows are written in JSON.

## Main definitions

* `ViewStatus.toJson`, `Notice.toJson`, `Row.toJson`.
-/

namespace SubtitleCoverage

/-- A status in JSON. -/
def ViewStatus.toJson : ViewStatus → Json
  | .loading => .obj [("state", .str "loading")]
  | .ready => .obj [("state", .str "ready")]
  | .degraded message retryable =>
    .obj [("state", .str "degraded"), ("message", .str message), ("retryable", .bool retryable)]

/-- The name of a level. -/
def NoticeLevel.name : NoticeLevel → String
  | .info => "info"
  | .error => "error"

/-- A notice in JSON. -/
def Notice.toJson (n : Notice) : Json :=
  .obj [("level", .str n.level.name), ("message", .str n.message)]

/-- A row in JSON. -/
def Row.toJson (r : Row) : Json :=
  .obj [("unit", r.unit.toJson), ("resolution", r.resolution.toJson),
    ("selected", .bool r.selected)]

end SubtitleCoverage
