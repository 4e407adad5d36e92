import SubtitleCoverage.Text.Utf8
import SubtitleCoverage.Text.Decimal

/-!
# Lexical elements of JSON

A JSON text is a sequence of tokens with blanks between them: brackets, commas, colons, the three
words, numbers and quoted strings. Scanning works on bytes, since a text from outside may hold
bytes that are no characters; such a string is still a token, but a garbled one.

## Main definitions

* `Numeral` — a JSON number, as far as anything here depends on it.
* `Token` — a lexical element.
* `scan` — the tokens of a text.
-/

namespace SubtitleCoverage.Json

open Text

/-! ### Numbers -/

/-- A JSON number. Whole numbers of 64 bits are kept; of any other number (with a fraction or an
exponent, minus zero, or too large) only the decimal digits that fit into 64 bits and the power of
ten are known. -/
inductive Numeral where
  | int (n : Int)
  | real (negative : Bool) (significand : Nat) (exponent : Int)
deriving DecidableEq, Repr

/-- The nearest number with 53 significant binary digits; a tie goes to the even one. -/
def roundTo53 (n : Nat) : Nat :=
  let unit := Nat.pow 2 (n.log2 + 1 - 53)
  let q := n / unit
  let r := n % unit
  if 2 * r > unit ∨ (2 * r = unit ∧ q % 2 = 1) then (q + 1) * unit else q * unit

/-- Half way between the largest double and `2 ^ 1024`. Numbers from there on are rounded up. -/
def doubleLimit : Nat := Nat.pow 2 1024 - Nat.pow 2 970

/-- Whether a number stays finite in double precision, where it is the product of its digits and
its power of ten, each rounded. -/
def Numeral.isFinite : Numeral → Bool
  | .int _ => true
  | .real _ significand exponent =>
    significand = 0 ∨ exponent ≤ 308 ∧
      roundTo53 significand * roundTo53 (Nat.pow 10 exponent.toNat) < doubleLimit

/-! ### Tokens -/

/-- A lexical element. -/
inductive Token where
  | openBrace
  | closeBrace
  | openBracket
  | closeBracket
  | colon
  | comma
  | null
  | true
  | false
  | num (n : Numeral)
  | str (s : String)
  /-- A string that is no text: broken bytes, or half of a surrogate pair. -/
  | garbled
deriving DecidableEq, Repr

/-- The blanks of JSON: space, line feed, carriage return and tab. -/
def isSpace (b : UInt8) : Bool := b == 0x20 || b == 0x0A || b == 0x0D || b == 0x09

/-! ### Scanning numbers -/

/-- The value of an ASCII digit. -/
def digitOf (b : UInt8) : Option Nat :=
  if 0x30 ≤ b ∧ b ≤ 0x39 then some (b.toNat - 0x30) else none

/-- The digits at the beginning, and what follows them. -/
def spanDigits : Bytes → List Nat × Bytes
  | [] => ([], [])
  | b :: bs =>
    match digitOf b with
    | none => ([], b :: bs)
    | some d => (d :: (spanDigits bs).1, (spanDigits bs).2)

theorem length_spanDigits (bs : Bytes) :
    (spanDigits bs).1.length + (spanDigits bs).2.length = bs.length := by
  induction bs with
  | nil => rfl
  | cons b bs ih =>
    rw [spanDigits]
    split
    · simp
    · simp only [List.length_cons]; omega

/-- Appends digits to a number as long as 64 bits hold it; also tells how many did not fit. -/
def fitDigits : Nat → List Nat → Nat × Nat
  | n, [] => (n, 0)
  | n, d :: ds => if 10 * n + d < UInt64.size then fitDigits (10 * n + d) ds else (n, ds.length + 1)

/-- The whole part of a number: a zero, or digits that do not begin with one. -/
def scanWhole : Bytes → Option (List Nat × Bytes)
  | 0x30 :: bs => some ([0], bs)
  | bs => if (spanDigits bs).1 = [] then none else some (spanDigits bs)

/-- The fraction of a number, if one is there; a point needs a digit after it. -/
def scanFraction : Bytes → Option (Option (List Nat) × Bytes)
  | 0x2E :: bs =>
    if (spanDigits bs).1 = [] then none else some (some (spanDigits bs).1, (spanDigits bs).2)
  | bs => some (none, bs)

/-- The digits of an exponent with the sign in front of it. -/
def scanExponentDigits (negative : Bool) (bs : Bytes) : Option (Option Int × Bytes) :=
  if (spanDigits bs).1 = [] then none
  else
    let n : Int := ofDigits (spanDigits bs).1
    some (some (if negative then -n else n), (spanDigits bs).2)

/-- The exponent of a number, if one is there. -/
def scanExponent : Bytes → Option (Option Int × Bytes)
  | b :: bs =>
    if b = 0x65 ∨ b = 0x45 then
      match bs with
      | 0x2B :: bs => scanExponentDigits false bs
      | 0x2D :: bs => scanExponentDigits true bs
      | bs => scanExponentDigits false bs
    else some (none, b :: bs)
  | [] => some (none, [])

/-- The number of some digits before the point, digits after it and an exponent. -/
def numeralOf (negative : Bool) (whole : List Nat) (fraction : Option (List Nat))
    (exponent : Option Int) : Numeral :=
  let (n, dropped) := fitDigits 0 whole
  match fraction, exponent with
  | none, none =>
    -- Minus zero is no whole number, and the smallest one is -2 ^ 63.
    if dropped = 0 ∧ negative = false then .int n
    else if dropped = 0 ∧ 0 < n ∧ n ≤ Int64.minValue.toInt.natAbs then .int (-n)
    else .real negative n dropped
  | _, _ =>
    let ds := fraction.getD []
    let (n, lost) := fitDigits n ds
    .real negative n ((dropped : Int) - (ds.length - lost : Nat) + exponent.getD 0)

/-- A number without its sign, and what follows it. -/
def scanUnsigned (negative : Bool) (bs : Bytes) : Option (Numeral × Bytes) := do
  let (whole, bs) ← scanWhole bs
  let (fraction, bs) ← scanFraction bs
  let (exponent, bs) ← scanExponent bs
  return (numeralOf negative whole fraction exponent, bs)

/-- A number, and what follows it. -/
def scanNumber : Bytes → Option (Numeral × Bytes)
  | 0x2D :: bs => scanUnsigned true bs
  | bs => scanUnsigned false bs

/-! ### Scanning strings -/

/-- What stands for a part of a quoted string: a byte, or an escape that names a UTF-16 unit. -/
inductive Piece where
  | byte (b : UInt8)
  | unit (n : Nat)
deriving DecidableEq, Repr

/-- The value of a hexadecimal digit. -/
def hexOf (b : UInt8) : Option Nat :=
  if 0x30 ≤ b ∧ b ≤ 0x39 then some (b.toNat - 0x30)
  else if 0x61 ≤ b ∧ b ≤ 0x66 then some (b.toNat - 0x57)
  else if 0x41 ≤ b ∧ b ≤ 0x46 then some (b.toNat - 0x37)
  else none

/-- The byte that a backslash and a letter stand for. -/
def escapedByte (b : UInt8) : Option UInt8 :=
  if b = 0x22 ∨ b = 0x5C ∨ b = 0x2F then some b
  else if b = 0x62 then some 0x08
  else if b = 0x66 then some 0x0C
  else if b = 0x6E then some 0x0A
  else if b = 0x72 then some 0x0D
  else if b = 0x74 then some 0x09
  else none

/-- The number of four hexadecimal digits. -/
def hexUnit (a b c d : UInt8) : Option Nat := do
  return 4096 * (← hexOf a) + 256 * (← hexOf b) + 16 * (← hexOf c) + (← hexOf d)

/-- The pieces of a string up to its closing quote, and what follows. Control characters have to
be escaped. -/
def scanPieces : Bytes → Option (List Piece × Bytes)
  | [] => none
  | 0x22 :: bs => some ([], bs)
  | 0x5C :: 0x75 :: a :: b :: c :: d :: bs => do
    let n ← hexUnit a b c d
    let (ps, rest) ← scanPieces bs
    return (.unit n :: ps, rest)
  | 0x5C :: b :: bs => do
    let b ← escapedByte b
    let (ps, rest) ← scanPieces bs
    return (.byte b :: ps, rest)
  | b :: bs =>
    if b < 0x20 then none
    else do
      let (ps, rest) ← scanPieces bs
      return (.byte b :: ps, rest)

/-- Whether a UTF-16 unit is the first half of a pair. -/
def isLeading (n : Nat) : Bool := 0xD800 ≤ n && n ≤ 0xDBFF

/-- Whether a UTF-16 unit is the second half of a pair. -/
def isTrailing (n : Nat) : Bool := 0xDC00 ≤ n && n ≤ 0xDFFF

/-- The bytes that pieces stand for. A half of a pair has to stand beside its other half. -/
def joinPieces : List Piece → Option Bytes
  | [] => some []
  | .byte b :: ps => (joinPieces ps).map (b :: ·)
  | .unit n :: .unit m :: ps =>
    if isLeading n then
      if isTrailing m then
        let c := Char.ofNat (0x10000 + 0x400 * (n - 0xD800) + (m - 0xDC00))
        (joinPieces ps).map (String.utf8EncodeChar c ++ ·)
      else none
    else if isTrailing n then none
    else (joinPieces (.unit m :: ps)).map (String.utf8EncodeChar (Char.ofNat n) ++ ·)
  | .unit n :: ps =>
    if isLeading n || isTrailing n then none
    else (joinPieces ps).map (String.utf8EncodeChar (Char.ofNat n) ++ ·)

/-- The token of a string with the given pieces. -/
def stringToken (ps : List Piece) : Token :=
  match (joinPieces ps).bind ofUtf8? with
  | some s => .str s
  | none => .garbled

/-! ### Scanning a text -/

/-- The tokens that are a single byte. -/
def punctuation (b : UInt8) : Option Token :=
  if b = 0x7B then some .openBrace
  else if b = 0x7D then some .closeBrace
  else if b = 0x5B then some .openBracket
  else if b = 0x5D then some .closeBracket
  else if b = 0x3A then some .colon
  else if b = 0x2C then some .comma
  else none

/-- One of the three words. -/
def scanWord : Bytes → Option (Token × Bytes)
  | 0x6E :: 0x75 :: 0x6C :: 0x6C :: bs => some (.null, bs)
  | 0x74 :: 0x72 :: 0x75 :: 0x65 :: bs => some (.true, bs)
  | 0x66 :: 0x61 :: 0x6C :: 0x73 :: 0x65 :: bs => some (.false, bs)
  | _ => none

/-- The token at the beginning of a text that does not begin with a blank, and what follows. -/
def scanToken (b : UInt8) (bs : Bytes) : Option (Token × Bytes) :=
  match punctuation b with
  | some t => some (t, bs)
  | none =>
    if b = 0x22 then (scanPieces bs).map fun r => (stringToken r.1, r.2)
    else
      match scanWord (b :: bs) with
      | some r => some r
      | none => (scanNumber (b :: bs)).map fun r => (.num r.1, r.2)

theorem length_lt_of_scanWhole {bs rest : Bytes} {ds : List Nat}
    (h : scanWhole bs = some (ds, rest)) : rest.length < bs.length := by
  have hs := length_spanDigits bs
  unfold scanWhole at h
  split at h
  · simp only [Option.some.injEq, Prod.mk.injEq] at h
    simp [h.2]
  · split at h
    · simp at h
    next hne =>
      have h1 : 0 < (spanDigits bs).1.length := List.length_pos_iff.2 hne
      simp only [Option.some.injEq] at h
      rw [h] at h1 hs
      simp only at h1 hs
      omega

theorem length_le_of_scanFraction {bs rest : Bytes} {ds : Option (List Nat)}
    (h : scanFraction bs = some (ds, rest)) : rest.length ≤ bs.length := by
  unfold scanFraction at h
  split at h
  next bs' =>
    have hs := length_spanDigits bs'
    split at h
    · simp at h
    · simp only [Option.some.injEq, Prod.mk.injEq] at h
      rw [h.2] at hs
      simp only [List.length_cons]; omega
  · simp only [Option.some.injEq, Prod.mk.injEq] at h
    simp [h.2]

theorem length_le_of_scanExponentDigits {negative : Bool} {bs rest : Bytes} {e : Option Int}
    (h : scanExponentDigits negative bs = some (e, rest)) : rest.length ≤ bs.length := by
  have hs := length_spanDigits bs
  unfold scanExponentDigits at h
  split at h
  · simp at h
  · simp only [Option.some.injEq, Prod.mk.injEq] at h
    rw [h.2] at hs
    omega

theorem length_le_of_scanExponent {bs rest : Bytes} {e : Option Int}
    (h : scanExponent bs = some (e, rest)) : rest.length ≤ bs.length := by
  unfold scanExponent at h
  split at h
  · split at h
    · split at h <;> have := length_le_of_scanExponentDigits h <;> simp only [List.length_cons] <;>
        omega
    · simp only [Option.some.injEq, Prod.mk.injEq] at h
      simp [← h.2]
  · simp only [Option.some.injEq, Prod.mk.injEq] at h
    simp [← h.2]

theorem length_lt_of_scanUnsigned {negative : Bool} {bs rest : Bytes} {n : Numeral}
    (h : scanUnsigned negative bs = some (n, rest)) : rest.length < bs.length := by
  simp only [scanUnsigned, Option.bind_eq_bind, Option.bind_eq_some_iff] at h
  obtain ⟨⟨ds, r₁⟩, h₁, ⟨fr, r₂⟩, h₂, ⟨e, r₃⟩, h₃, h₄⟩ := h
  have l₁ := length_lt_of_scanWhole h₁
  have l₂ := length_le_of_scanFraction h₂
  have l₃ := length_le_of_scanExponent h₃
  simp only [pure, Option.some.injEq, Prod.mk.injEq] at h₄
  rw [← h₄.2]
  exact Nat.lt_of_le_of_lt (Nat.le_trans l₃ l₂) l₁

theorem length_lt_of_scanNumber {bs rest : Bytes} {n : Numeral}
    (h : scanNumber bs = some (n, rest)) : rest.length < bs.length := by
  unfold scanNumber at h
  split at h
  · exact Nat.lt_succ_of_lt (length_lt_of_scanUnsigned h)
  · exact length_lt_of_scanUnsigned h

theorem length_lt_of_scanPieces {bs rest : Bytes} {ps : List Piece}
    (h : scanPieces bs = some (ps, rest)) : rest.length < bs.length := by
  fun_induction scanPieces bs generalizing ps with
  | case1 => simp at h
  | case2 bs =>
    simp only [Option.some.injEq, Prod.mk.injEq] at h
    simp [h.2]
  | case3 a b c d bs ih =>
    simp only [Option.bind_eq_bind, Option.bind_eq_some_iff] at h
    obtain ⟨n, -, ⟨qs, r⟩, hq, hr⟩ := h
    simp only [pure, Option.some.injEq, Prod.mk.injEq] at hr
    have := ih (hr.2 ▸ hq)
    simp only [List.length_cons]; omega
  | case4 b bs _ ih =>
    simp only [Option.bind_eq_bind, Option.bind_eq_some_iff] at h
    obtain ⟨n, -, ⟨qs, r⟩, hq, hr⟩ := h
    simp only [pure, Option.some.injEq, Prod.mk.injEq] at hr
    have := ih (hr.2 ▸ hq)
    simp only [List.length_cons]; omega
  | case5 b bs => simp at h
  | case6 b bs _ _ _ _ ih =>
    simp only [Option.bind_eq_bind, Option.bind_eq_some_iff] at h
    obtain ⟨⟨qs, r⟩, hq, hr⟩ := h
    simp only [pure, Option.some.injEq, Prod.mk.injEq] at hr
    have := ih (hr.2 ▸ hq)
    simp only [List.length_cons]; omega

theorem length_lt_of_scanWord {bs rest : Bytes} {t : Token}
    (h : scanWord bs = some (t, rest)) : rest.length < bs.length := by
  unfold scanWord at h
  split at h <;> simp only [Option.some.injEq, Prod.mk.injEq, reduceCtorEq] at h <;>
    simp only [← h.2, List.length_cons] <;> omega

/-- A token takes up at least one byte. -/
theorem length_le_of_scanToken {b : UInt8} {bs rest : Bytes} {t : Token}
    (h : scanToken b bs = some (t, rest)) : rest.length ≤ bs.length := by
  unfold scanToken at h
  split at h
  · simp only [Option.some.injEq, Prod.mk.injEq] at h
    simp [h.2]
  · split at h
    · obtain ⟨⟨ps, r⟩, hp, hr⟩ := Option.map_eq_some_iff.1 h
      simp only [Prod.mk.injEq] at hr
      have := length_lt_of_scanPieces hp
      rw [← hr.2]; omega
    · split at h
      next hw =>
        simp only [Option.some.injEq] at h
        have := length_lt_of_scanWord (h ▸ hw)
        simp only [List.length_cons] at this; omega
      · obtain ⟨⟨n, r⟩, hn, hr⟩ := Option.map_eq_some_iff.1 h
        simp only [Prod.mk.injEq] at hr
        have := length_lt_of_scanNumber hn
        simp only [List.length_cons] at this
        rw [← hr.2]; omega

/-- The tokens of a text, after those already found, the latest of which comes first. -/
def scanFrom (found : List Token) : Bytes → Option (List Token)
  | [] => some found.reverse
  | b :: bs =>
    if isSpace b then scanFrom found bs
    else
      match _h : scanToken b bs with
      | none => none
      | some (t, rest) => scanFrom (t :: found) rest
termination_by bs => bs.length
decreasing_by
  · simp
  · have := length_le_of_scanToken _h
    simp only [List.length_cons]; omega

/-- The tokens of a text; none if some part of it is no token. -/
def scan (bs : Bytes) : Option (List Token) := scanFrom [] bs

end SubtitleCoverage.Json
