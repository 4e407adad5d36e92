import SubtitleCoverage.Clock

/-!
# The search box

What is typed into the search box is applied once nothing more has been typed for a while, or when
it is submitted. Time is counted in nanoseconds.

## Main definitions

* `SearchBox` — the text applied and the text that waits.
* `SearchBox.input`, `poll`, `flush` — typing, the passing of time, and submitting.
-/

namespace SubtitleCoverage

/-- How long a text waits before it is applied. -/
def searchDelay : Int := milliseconds 300

/-- The text applied, and the text typed last with the time of typing as long as it waits. -/
structure SearchBox where
  applied : String := ""
  pending : Option (String × Int) := none
deriving DecidableEq, Repr

namespace SearchBox

/-- A text typed at a time takes the place of the one that waits. -/
def input (b : SearchBox) (text : String) (time : Int) : SearchBox :=
  { b with pending := some (text, time) }

/-- Applies the text that waits; the text is returned if it differs from the one applied before. -/
def flush (b : SearchBox) : Option String × SearchBox :=
  match b.pending with
  | none => (none, b)
  | some (text, _) =>
    if text = b.applied then (none, { b with pending := none })
    else (some text, ⟨text, none⟩)

/-- Applies the text that waits if it has waited long enough at a time. -/
def poll (b : SearchBox) (now : Int) : Option String × SearchBox :=
  match b.pending with
  | some (_, time) => if searchDelay ≤ now - time then b.flush else (none, b)
  | none => (none, b)

/-- When the text that waits will have waited long enough. -/
def deadline (b : SearchBox) : Option Int := b.pending.map fun e => e.2 + searchDelay

end SearchBox

end SubtitleCoverage
