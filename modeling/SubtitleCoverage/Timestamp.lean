import SubtitleCoverage.Calendar
import SubtitleCoverage.Text.Blank
import SubtitleCoverage.Text.Decimal

/-!
# Points in time

A timestamp is a point in time to the nanosecond, kept as date and time of day in UTC. It is written
in the form of RFC 3339, such as `2024-03-05T09:30:00.250Z`, and read from a relaxed form of it:
blanks may stand around the numbers, numbers may have fewer digits, the `T` may be a blank, and the
offset from UTC may be given in several ways. The second 60 stands for a leap second, in any minute.

## Main definitions

* `Timestamp` — the points in time.
* `Timestamp.text`, `Timestamp.ofText?` — writing and reading.
* `Timestamp.millis` — milliseconds since the beginning of 1970.
-/

namespace SubtitleCoverage

open Text

/-- A date and a time of day. -/
structure DateTime where
  date : Date
  hour : Nat
  minute : Nat
  second : Nat
  nano : Nat
deriving DecidableEq, Repr

/-- Whether the clock shows such a time and the year can be kept. -/
def DateTime.isValid (t : DateTime) : Bool :=
  t.date.isValid && -262143 ≤ t.date.year && t.date.year ≤ 262142 && t.hour < 24 &&
    t.minute < 60 && t.second ≤ 60 && t.nano < 1000000000

/-- A point in time, in UTC. -/
structure Timestamp extends DateTime where
  valid : toDateTime.isValid = true
deriving DecidableEq

namespace Timestamp

/-- The point in time at a date and time of day in UTC. -/
def ofDateTime? (t : DateTime) : Option Timestamp :=
  if h : t.isValid then some ⟨t, h⟩ else none

/-! ### Writing -/

/-- A year: four digits, and a sign if it needs more or lies before year 0. -/
def yearText (year : Int) : String :=
  if 0 ≤ year ∧ year ≤ 9999 then decimalPadded 4 year
  else (if year < 0 then "-" else "+") ++ decimalPadded 4 year.natAbs

/-- The fraction of a second: none, or as many groups of three digits as it takes. -/
def fractionText (nano : Nat) : String :=
  if nano = 0 then ""
  else if nano % 1000000 = 0 then "." ++ decimalPadded 3 (nano / 1000000 : Nat)
  else if nano % 1000 = 0 then "." ++ decimalPadded 6 (nano / 1000 : Nat)
  else "." ++ decimalPadded 9 nano

/-- A point in time in the form of RFC 3339. -/
def text (t : Timestamp) : String :=
  yearText t.date.year ++ "-" ++ decimalPadded 2 t.date.month ++ "-" ++
    decimalPadded 2 t.date.day ++ "T" ++ decimalPadded 2 t.hour ++ ":" ++
    decimalPadded 2 t.minute ++ ":" ++ decimalPadded 2 t.second ++ fractionText t.nano ++ "Z"

/-! ### Reading -/

/-- At least one and at most `most` digits at the beginning; the number that they make, how many
they are, and what follows. -/
def spanNumber (most : Nat) (cs : List Char) : Option (Nat × Nat × List Char) :=
  let ds := (cs.take most).takeWhile Char.isDigit
  if ds = [] then none
  else some (ofDigits (ds.filterMap digitValue?), ds.length, cs.drop ds.length)

/-- A number behind blanks. -/
def readNumber (most : Nat) (cs : List Char) : Option (Nat × List Char) :=
  (spanNumber most (trimStartChars cs)).map fun (n, _, rest) => (n, rest)

/-- A year behind blanks: up to four digits, or a sign and any number of them. -/
def readYear (cs : List Char) : Option (Int × List Char) :=
  match trimStartChars cs with
  | '-' :: cs => (spanNumber cs.length cs).map fun (n, _, rest) => (-(n : Int), rest)
  | '+' :: cs => (spanNumber cs.length cs).map fun (n, _, rest) => ((n : Int), rest)
  | cs => (spanNumber 4 cs).map fun (n, _, rest) => ((n : Int), rest)

/-- A separator behind blanks. -/
def skip (separator : Char) (cs : List Char) : Option (List Char) :=
  match trimStartChars cs with
  | c :: cs => if c = separator then some cs else none
  | [] => none

/-- What stands between date and time: a `T`, or a space. -/
def skipBetween : List Char → Option (List Char)
  | c :: cs => if c = 'T' ∨ c = 't' ∨ c = ' ' then some cs else none
  | [] => none

/-- The nanoseconds of a fraction, if one is there. Digits beyond the ninth are passed over. -/
def readFraction : List Char → Option (Nat × List Char)
  | '.' :: cs =>
    (spanNumber 9 cs).map fun (n, count, rest) =>
      (n * Nat.pow 10 (9 - count), rest.dropWhile Char.isDigit)
  | cs => some (0, cs)

/-- The minutes of an offset: hours and minutes of two digits, colons or blanks between them. -/
def readOffsetDigits (cs : List Char) : Option (Nat × List Char) :=
  match cs with
  | h₁ :: h₂ :: cs =>
    match cs.dropWhile fun c => c = ':' || isBlank c with
    | m₁ :: m₂ :: cs => do
      let hours := 10 * (← digitValue? h₁) + (← digitValue? h₂)
      let minutes := 10 * (← digitValue? m₁) + (← digitValue? m₂)
      if minutes < 60 ∧ hours < 24 then some (60 * hours + minutes, cs) else none
    | _ => none
  | _ => none

/-- An offset from UTC in minutes, and what follows. -/
def readOffset (cs : List Char) : Option (Int × List Char) :=
  match cs with
  | 'Z' :: cs | 'z' :: cs => some (0, cs)
  | '+' :: cs => (readOffsetDigits cs).map fun (n, rest) => ((n : Int), rest)
  | '-' :: cs | '\u2212' :: cs => (readOffsetDigits cs).map fun (n, rest) => (-(n : Int), rest)
  | a :: b :: c :: cs =>
    if (String.ofList [a, b, c]).toUpper = "UTC" then some (0, cs) else none
  | _ => none

/-- A date and time moved by less than a day. -/
def shift (t : DateTime) (minutes : Int) : DateTime :=
  let m := 60 * (t.hour : Int) + t.minute + minutes
  let date := if m < 0 then t.date.previous else if m < 1440 then t.date else t.date.next
  let m := (m % 1440).toNat
  { t with date, hour := m / 60, minute := m % 60 }

/-- The date and time that a text names, its offset from UTC in minutes, and what follows. -/
def readDateTime (cs : List Char) : Option (DateTime × Int × List Char) := do
  let (year, cs) ← readYear cs
  let (month, cs) ← readNumber 2 (← skip '-' cs)
  let (day, cs) ← readNumber 2 (← skip '-' cs)
  let (hour, cs) ← readNumber 2 (← skipBetween cs)
  let (minute, cs) ← readNumber 2 (← skip ':' cs)
  let (second, cs) ← readNumber 2 (← skip ':' cs)
  let (nano, cs) ← readFraction cs
  let (offset, cs) ← readOffset (trimStartChars cs)
  return (⟨⟨year, month, day⟩, hour, minute, second, nano⟩, offset, cs)

/-- The point in time that a text names. Both the time that is written and the same time in UTC
have to be valid. -/
def ofText? (s : String) : Option Timestamp := do
  let (t, offset, rest) ← readDateTime s.toList
  if t.isValid ∧ trimStartChars rest = [] then ofDateTime? (shift t (-offset)) else none

/-! ### Order -/

/-- The milliseconds since the beginning of 1970, rounded down. The leap second counts as the
second after second 59. -/
def millis (t : Timestamp) : Int :=
  (86400 * t.date.dayNumber + 3600 * t.hour + 60 * t.minute + t.second) * 1000 +
    (t.nano / 1000000 : Nat)

end Timestamp

end SubtitleCoverage
