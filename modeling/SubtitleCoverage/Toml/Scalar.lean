import SubtitleCoverage.Calendar
import SubtitleCoverage.Json.Value
import SubtitleCoverage.Toml.Lexeme

/-!
# Numbers and dates of TOML

Whole numbers have 64 bits and may be written in four bases; floats have to be finite unless they
are written as `inf`; dates and times have to exist.

## Main definitions

* `readInteger`, `readFloat`, `readMoment` — the readers.
* `readScalar` — a value that begins with a sign or a digit.
-/

namespace SubtitleCoverage.Toml

open Text

/-! ### Digits -/

/-- Digits of a base, given by its digit test; an underscore may stand between two of them. -/
def spanDigits (value? : Char → Option Nat) : List Char → List Nat × List Char
  | '_' :: c :: cs =>
    match value? c with
    | some d => let (ds, rest) := spanDigits value? cs; (d :: ds, rest)
    | none => ([], '_' :: c :: cs)
  | c :: cs =>
    match value? c with
    | some d => let (ds, rest) := spanDigits value? cs; (d :: ds, rest)
    | none => ([], c :: cs)
  | [] => ([], [])

/-- At least one digit of a base, the first without an underscore before it. -/
def readDigits (value? : Char → Option Nat) : List Char → Option (List Nat × List Char)
  | c :: cs => do
    let d ← value? c
    let (ds, rest) := spanDigits value? cs
    return (d :: ds, rest)
  | [] => none

/-- The number of digits of a base. -/
def digitsValue (base : Nat) (ds : List Nat) : Nat := ds.foldl (fun n d => base * n + d) 0

/-- The digits of a base below ten. -/
def digitBelow (base : Nat) (c : Char) : Option Nat :=
  (hexValue? c).filter (· < base)

/-- The digits of a decimal number that does not begin with a zero, unless it is zero. -/
def readWhole : List Char → Option (List Nat × List Char)
  | '0' :: cs => some ([0], cs)
  | cs => readDigits (digitBelow 10) cs

/-- A sign, if there is one: whether it is a minus. -/
def readSign : List Char → Bool × List Char
  | '+' :: cs => (false, cs)
  | '-' :: cs => (true, cs)
  | cs => (false, cs)

/-! ### Whole numbers -/

/-- A whole number of 64 bits. -/
def integer? (n : Int) : Option Json :=
  if Int64.minValue.toInt ≤ n ∧ n ≤ Int64.maxValue.toInt then some (.ofInt n) else none

/-- A whole number without a sign in a base. -/
def readBased (base : Nat) (cs : List Char) : Option (Json × List Char) := do
  let (ds, rest) ← readDigits (digitBelow base) cs
  return (← integer? (digitsValue base ds), rest)

/-- A whole number. -/
def readInteger : List Char → Option (Json × List Char)
  | '0' :: 'x' :: cs => readBased 16 cs
  | '0' :: 'o' :: cs => readBased 8 cs
  | '0' :: 'b' :: cs => readBased 2 cs
  | cs => do
    let (negative, cs) := readSign cs
    let (ds, rest) ← readWhole cs
    let n : Int := digitsValue 10 ds
    return (← integer? (if negative then -n else n), rest)

/-! ### Floats -/

/-- The exponent of a float, if one comes. -/
def readExponent : List Char → Option (Option Int × List Char)
  | c :: cs =>
    if c = 'e' ∨ c = 'E' then do
      let (negative, cs) := readSign cs
      let (ds, rest) ← readDigits (digitBelow 10) cs
      let n : Int := digitsValue 10 ds
      return (some (if negative then -n else n), rest)
    else some (none, c :: cs)
  | [] => some (none, [])

/-- The fraction of a float, if one comes. -/
def readFraction : List Char → Option (Option (List Nat) × List Char)
  | '.' :: cs => do
    let (ds, rest) ← readDigits (digitBelow 10) cs
    return (some ds, rest)
  | cs => some (none, cs)

/-- Whether a number with some significant digits and a power of ten is beyond double precision. -/
def isBeyondDouble (significand : Nat) (exponent : Int) : Bool :=
  if significand = 0 then false
  else if 310 ≤ exponent then true
  else if 0 ≤ exponent then Json.doubleLimit ≤ significand * Nat.pow 10 exponent.toNat
  -- A power of ten with an exponent beyond the binary digits is greater than the significand.
  else if significand.log2 < max 1023 (-exponent).toNat then false
  else Json.doubleLimit * Nat.pow 10 (-exponent).toNat ≤ significand

/-- The words that stand for a float without digits. No number stands for them. -/
def readWordFloat (cs : List Char) : Option (Json × List Char) :=
  match (readSign cs).2 with
  | 'i' :: 'n' :: 'f' :: rest => some (.garbled, rest)
  | 'n' :: 'a' :: 'n' :: rest => some (.garbled, rest)
  | _ => none

/-- A float with digits: a number with a fraction, an exponent or both. -/
def readDigitFloat (cs : List Char) : Option (Json × List Char) := do
  let (negative, cs) := readSign cs
  let (whole, cs) ← readWhole cs
  let (fraction, cs) ← readFraction cs
  let (exponent, cs) ← readExponent cs
  guard (fraction.isSome || exponent.isSome)
  let ds := fraction.getD []
  let beyond := isBeyondDouble (digitsValue 10 (whole ++ ds)) (exponent.getD 0 - ds.length)
  guard (negative || !beyond)
  return (.num (Json.numeralOf negative whole fraction exponent), cs)

/-- A float. -/
def readFloat (cs : List Char) : Option (Json × List Char) :=
  (readDigitFloat cs).or (readWordFloat cs)

/-! ### Dates and times -/

/-- A number of exactly `count` digits. -/
def readFixed (count : Nat) (cs : List Char) : Option (Nat × List Char) :=
  let ds := (cs.take count).filterMap (digitBelow 10)
  if ds.length = count then some (digitsValue 10 ds, cs.drop count) else none

/-- The characters after a given one. -/
def expect (c : Char) : List Char → Option (List Char)
  | c' :: cs => if c' = c then some cs else none
  | [] => none

/-- The characters after a date. -/
def skipDate (cs : List Char) : Option (List Char) := do
  let (year, cs) ← readFixed 4 cs
  let (month, cs) ← readFixed 2 (← expect '-' cs)
  let (day, cs) ← readFixed 2 (← expect '-' cs)
  guard (Date.isValid ⟨year, month, day⟩)
  return cs

/-- The characters after hours and minutes. -/
def skipClock (cs : List Char) : Option (List Char) := do
  let (hour, cs) ← readFixed 2 cs
  let (minute, cs) ← readFixed 2 (← expect ':' cs)
  guard (hour < 24 && minute < 60)
  return cs

/-- The characters after a time of day. -/
def skipTime (cs : List Char) : Option (List Char) := do
  let (second, cs) ← readFixed 2 (← expect ':' (← skipClock cs))
  guard (second ≤ 60)
  match cs with
  | '.' :: cs =>
    let ds := cs.takeWhile Char.isDigit
    if ds = [] then none else return cs.drop ds.length
  | cs => return cs

/-- The characters after an offset, if one comes. -/
def skipOffset : List Char → Option (List Char)
  | c :: cs =>
    if c = 'Z' ∨ c = 'z' then some cs
    else if c = '+' ∨ c = '-' then skipClock cs
    else some (c :: cs)
  | [] => some []

/-- The characters after the time that belongs to a date, if there is one. -/
def skipTimeOfDate : List Char → List Char
  | c :: cs =>
    if c = 'T' ∨ c = 't' ∨ c = ' ' then ((skipTime cs).bind skipOffset).getD (c :: cs)
    else c :: cs
  | [] => []

/-- A date, a time, or both. It is kept as its text, in a record of its own. -/
def readMoment (cs : List Char) : Option (Json × List Char) :=
  let rest := ((skipDate cs).map skipTimeOfDate).or (skipTime cs)
  rest.map fun rest =>
    (.obj [("moment", .str (String.ofList (cs.take (cs.length - rest.length))))], rest)

/-- A value that begins with a sign or a digit. -/
def readScalar (cs : List Char) : Option (Json × List Char) :=
  (readMoment cs).or ((readFloat cs).or (readInteger cs))

end SubtitleCoverage.Toml
