/-!
# The clock

Time is counted in nanoseconds, as the clock of the system counts it: a time is an integer, from a
start that does not matter, and a span of time is a natural number.

## Main definitions

* `milliseconds`, `seconds` — spans of time in longer units.
-/

namespace SubtitleCoverage

/-- So many milliseconds. -/
def milliseconds (n : Nat) : Nat := n * 1000000

/-- So many seconds. -/
def seconds (n : Nat) : Nat := n * 1000000000

end SubtitleCoverage
