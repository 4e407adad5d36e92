import SubtitleCoverage.Jobs.Event
import SubtitleCoverage.Json.Reader
import SubtitleCoverage.Text.Column

/-!
# The stream of job events

The backend sends events as a text of lines that never ends. Lines that begin with `data:` hold the
event, a blank line ends it; all other lines are passed over, and so is an event that cannot be
read. The bytes of the stream come in pieces that may be cut anywhere, so the bytes after the last
line are kept until the rest of their line comes.

## Main definitions

* `Line`, `Line.ofBytes` — what a line says.
* `splitLines` — the lines that end in some bytes, and the bytes after them.
* `StreamDecoder` — what has come since the last event, with `push` and `finish`.
-/

namespace SubtitleCoverage

open Text

/-! ### Lines -/

/-- What a line of the stream says. -/
inductive Line where
  /-- The event ends. -/
  | blank
  /-- A part of the event. -/
  | data (value : String)
  | other
deriving DecidableEq, Repr

/-- Whether a character ends a line. -/
def isLineEnd (c : Char) : Bool := c = '\n' || c = '\r'

/-- A text without one space at its beginning. -/
def dropSpace : List Char → List Char
  | ' ' :: cs => cs
  | cs => cs

/-- What the characters of a line say, line ends left out. -/
def Line.ofChars : List Char → Line
  | [] => .blank
  | 'd' :: 'a' :: 't' :: 'a' :: ':' :: cs => .data (String.ofList (dropSpace cs))
  | _ => .other

/-- What the bytes of a line say. Line feeds and carriage returns at its end do not belong to it. -/
def Line.ofBytes (bs : Bytes) : Line :=
  .ofChars ((readUtf8 bs).reverse.dropWhile isLineEnd).reverse

/-! ### Lines in bytes -/

/-- The byte that ends a line. -/
def lineFeed : UInt8 := 0x0A

/-- The lines that end in some bytes, each with its line feed, and the bytes after the last one. -/
def splitLines : Bytes → List Bytes × Bytes
  | [] => ([], [])
  | b :: bs =>
    let (lines, rest) := splitLines bs
    if b = lineFeed then ([b] :: lines, rest)
    else
      match lines with
      | [] => ([], b :: rest)
      | line :: lines => ((b :: line) :: lines, rest)

theorem splitLines_lineFeed (bs : Bytes) :
    splitLines (lineFeed :: bs) = ([lineFeed] :: (splitLines bs).1, (splitLines bs).2) := rfl

/-- A byte that ends no line belongs to the first line, or to what follows if no line ends. -/
theorem splitLines_cons {b : UInt8} (h : b ≠ lineFeed) (bs : Bytes) :
    splitLines (b :: bs) =
      match (splitLines bs).1 with
      | [] => ([], b :: (splitLines bs).2)
      | line :: lines => ((b :: line) :: lines, (splitLines bs).2) := by
  simp only [splitLines, if_neg h]

/-- What follows the last line has no line feed. -/
theorem lineFeed_not_mem_rest (bs : Bytes) : lineFeed ∉ (splitLines bs).2 := by
  induction bs with
  | nil => exact List.not_mem_nil
  | cons b bs ih =>
    by_cases h : b = lineFeed
    · rw [h, splitLines_lineFeed]
      exact ih
    · rw [splitLines_cons h]
      split
      · exact fun hmem => (List.mem_cons.1 hmem).elim (fun hb => h hb.symm) ih
      · exact ih

/-! ### The decoder -/

/-- What has come of the stream since the last event. -/
structure StreamDecoder where
  /-- The bytes after the last line. -/
  rest : Bytes := []
  /-- The parts of the event that has not ended, the latest first. -/
  data : List String := []
  /-- No line ends there. -/
  unended : lineFeed ∉ rest := by exact List.not_mem_nil
deriving DecidableEq, Repr

namespace StreamDecoder

/-- The decoder before anything has come. -/
def start : StreamDecoder := {}

@[ext] theorem ext {d d' : StreamDecoder} (hrest : d.rest = d'.rest) (hdata : d.data = d'.data) :
    d = d' := by
  cases d; cases d'; cases hrest; cases hdata; rfl

/-- The event with some parts, if it can be read. -/
def eventOf? : List String → Option JobEvent
  | [] => none
  | parts => (Json.readText (joinWith "\n" parts)).bind JobEvent.ofJson?

/-- The event ends: what it is, and the parts of the next one. -/
def dispatch (data : List String) : Option JobEvent × List String := (eventOf? data.reverse, [])

/-- The event that a line ends, if it ends one, and the parts after the line. -/
def takeLine (data : List String) : Line → Option JobEvent × List String
  | .blank => dispatch data
  | .data value => (none, value :: data)
  | .other => (none, data)

/-- The events that some lines end, and the parts after them. -/
def takeLines (data : List String) : List Bytes → List JobEvent × List String
  | [] => ([], data)
  | line :: lines =>
    let (event, data) := takeLine data (.ofBytes line)
    let (events, data) := takeLines data lines
    (event.toList ++ events, data)

/-- A piece of the stream has come: the events that it completes, and the decoder after it. -/
def push (d : StreamDecoder) (piece : Bytes) : List JobEvent × StreamDecoder :=
  let bytes := d.rest ++ piece
  let (events, data) := takeLines d.data (splitLines bytes).1
  (events, ⟨(splitLines bytes).2, data, lineFeed_not_mem_rest bytes⟩)

/-- The stream has ended: the event that its last bytes make up, if they do. -/
def finish (d : StreamDecoder) : Option JobEvent × StreamDecoder :=
  -- What is left is a line although nothing ends it.
  let (event, data) := if d.rest = [] then (none, d.data) else takeLine d.data (.ofBytes d.rest)
  match event with
  | some e => (some e, { data })
  | none =>
    let (event, data) := dispatch data
    (event, { data })

end StreamDecoder

end SubtitleCoverage
