/-!
# Decimal numbers as text

Whole numbers are written with the fewest digits, and read with an optional sign. A number that
does not fit the machine integer it is read for is refused at the digit that makes it too large
or too small, so the fault of a text is the one that its first bad character shows.

## Main definitions

* `digits`, `ofDigits` — the decimal digits of a number, most significant first, and back.
* `decimal`, `decimalPadded` — the text of an integer, bare or filled with zeros.
* `NumberFault`, `readInteger` — why a text is not a number of the wanted range, and the reader.

## Main results

* `ofDigits_digits` — the digits of a number give the number back.
-/

namespace SubtitleCoverage.Text

/-! ### Digits -/

/-- The decimal digits of a number, most significant first. -/
def digits (n : Nat) : List Nat :=
  if n < 10 then [n] else digits (n / 10) ++ [n % 10]

/-- The number with the given decimal digits, after `n` in front of them. -/
def appendDigits (n : Nat) (ds : List Nat) : Nat := ds.foldl (fun n d => 10 * n + d) n

/-- The number with the given decimal digits. -/
def ofDigits (ds : List Nat) : Nat := appendDigits 0 ds

@[simp] theorem appendDigits_nil (n : Nat) : appendDigits n [] = n := rfl

@[simp] theorem appendDigits_cons (n d : Nat) (ds : List Nat) :
    appendDigits n (d :: ds) = appendDigits (10 * n + d) ds := rfl

theorem ofDigits_append_singleton (ds : List Nat) (d : Nat) :
    ofDigits (ds ++ [d]) = 10 * ofDigits ds + d := by
  simp [ofDigits, appendDigits]

/-- The digits of a number give the number back. -/
theorem ofDigits_digits (n : Nat) : ofDigits (digits n) = n := by
  induction n using digits.induct with
  | case1 n h => rw [digits, if_pos h]; simp [ofDigits]
  | case2 n h ih => rw [digits, if_neg h, ofDigits_append_singleton, ih]; omega

theorem lt_ten_of_mem_digits {n d : Nat} (h : d ∈ digits n) : d < 10 := by
  induction n using digits.induct with
  | case1 n hn => rw [digits, if_pos hn] at h; simp at h; omega
  | case2 n hn ih =>
    rw [digits, if_neg hn] at h
    rcases List.mem_append.1 h with h | h
    · exact ih h
    · simp at h; omega

theorem digits_ne_nil (n : Nat) : digits n ≠ [] := by
  rw [digits]; split <;> simp

/-! ### Writing -/

/-- The character of a decimal digit. -/
def digitChar (d : Nat) : Char := Char.ofNat (0x30 + d)

/-- The characters of a natural number. -/
def natChars (n : Nat) : List Char := (digits n).map digitChar

/-- The text of an integer: its digits, after a minus sign if it is negative. -/
def decimal (n : Int) : String :=
  String.ofList (if n < 0 then '-' :: natChars n.natAbs else natChars n.natAbs)

/-- The text of an integer, filled up to `width` characters by zeros between sign and digits. -/
def decimalPadded (width : Nat) (n : Int) : String :=
  let ds := natChars n.natAbs
  let sign := if n < 0 then ['-'] else []
  String.ofList (sign ++ List.replicate (width - sign.length - ds.length) '0' ++ ds)

/-! ### Reading -/

/-- Why a text is not a number of the wanted range. -/
inductive NumberFault where
  /-- There is no character at all. -/
  | empty
  /-- A character is no digit, or no digit follows the sign. -/
  | invalidDigit
  /-- The digits pass the largest number of the range. -/
  | tooLarge
  /-- The digits pass the smallest number of the range. -/
  | tooSmall
deriving DecidableEq, Repr

/-- The wording of a fault. -/
def NumberFault.message : NumberFault → String
  | .empty => "cannot parse integer from empty string"
  | .invalidDigit => "invalid digit found in string"
  | .tooLarge => "number too large to fit in target type"
  | .tooSmall => "number too small to fit in target type"

/-- The value of an ASCII digit. -/
def digitValue? (c : Char) : Option Nat :=
  if c.isDigit then some (c.toNat - 0x30) else none

/-- Reads digits up to a bound on the number they make; `beyond` is the fault of passing it. -/
def readDigits (bound : Nat) (beyond : NumberFault) : Nat → List Char → Except NumberFault Nat
  | n, [] => .ok n
  | n, c :: cs =>
    match digitValue? c with
    | none => .error .invalidDigit
    | some d =>
      if 10 * n + d ≤ bound then readDigits bound beyond (10 * n + d) cs else .error beyond

/-- Reads an integer between `-below` and `above`. A minus sign is a digit out of place in a range
without negative numbers. -/
def readInteger (below above : Nat) (s : String) : Except NumberFault Int :=
  match s.toList with
  | [] => .error .empty
  | ['+'] | ['-'] => .error .invalidDigit
  | '+' :: cs => (readDigits above .tooLarge 0 cs).map (fun n => (n : Int))
  | '-' :: cs =>
    if below = 0 then .error .invalidDigit
    else (readDigits below .tooSmall 0 cs).map (fun n => -(n : Int))
  | cs => (readDigits above .tooLarge 0 cs).map (fun n => (n : Int))

/-- Reads a 64-bit signed integer. -/
def readInt64 (s : String) : Except NumberFault Int64 :=
  (readInteger Int64.minValue.toInt.natAbs Int64.maxValue.toInt.natAbs s).map Int64.ofInt

/-- Reads a 64-bit unsigned integer. -/
def readUInt64 (s : String) : Except NumberFault UInt64 :=
  (readInteger 0 (UInt64.size - 1) s).map fun n => UInt64.ofNat n.toNat

end SubtitleCoverage.Text
