import Mathlib.Algebra.Order.Ring.Nat
import Mathlib.Tactic.SplitIfs
import SubtitleCoverage.Json.Writer
import SubtitleCoverage.Proofs.Text.Utf8

/-!
# Lexical elements, written and scanned

A lexical element is found again where it was written, whatever follows it.  Only a number needs
something that ends it: its digits go on as long as they can, and a point or an exponent would
belong to it.

## Main definitions

* `Token.Exact` — a lexical element that scanning gives back as it is.
* `Token.isNumeral`, `EndsNumeral` — what may stand after a number.

## Main results

* `scanNumber_intBytes` — a whole number of 64 bits is scanned.
* `scanPieces_escape`, `stringToken_map` — a string is scanned, byte by byte, and gives its text.
* `scanToken_bytes` — **every exact lexical element is scanned**.
* `printed_bytes` — what is written has no control characters.
-/

namespace SubtitleCoverage.Json

open Text

/-! ### Numbers -/

/-- The byte of a decimal digit. -/
def digitByte (d : Nat) : UInt8 := UInt8.ofNat (0x30 + d)

theorem natBytes_eq (n : Nat) : natBytes n = (digits n).map digitByte := rfl

theorem digitOf_digitByte : ∀ d < 10, digitOf (digitByte d) = some d := by decide

/-- Whether some bytes cannot be part of a number before them. -/
def EndsNumeral (bs : Bytes) : Prop :=
  ∀ b ∈ bs.head?, digitOf b = none ∧ b ≠ 0x2E ∧ b ≠ 0x65 ∧ b ≠ 0x45

theorem endsNumeral_cons {b : UInt8} {bs : Bytes} :
    EndsNumeral (b :: bs) ↔ digitOf b = none ∧ b ≠ 0x2E ∧ b ≠ 0x65 ∧ b ≠ 0x45 := by
  simp [EndsNumeral]

/-- Digits are scanned up to the end of the number. -/
theorem spanDigits_digitBytes {ds : List Nat} (hds : ∀ d ∈ ds, d < 10) {rest : Bytes}
    (hrest : EndsNumeral rest) : spanDigits (ds.map digitByte ++ rest) = (ds, rest) := by
  induction ds with
  | nil =>
    cases rest with
    | nil => rfl
    | cons b rest => rw [List.map_nil, List.nil_append, spanDigits, (endsNumeral_cons.1 hrest).1]
  | cons d ds ih =>
    rw [List.map_cons, List.cons_append, spanDigits,
      digitOf_digitByte d (hds d (List.mem_cons_self ..)),
      ih fun e he => hds e (List.mem_cons_of_mem _ he)]

/-- The digits of a number that is not zero do not begin with a zero. -/
theorem head?_digits {n : Nat} (hn : n ≠ 0) : (digits n).head? ≠ some 0 := by
  induction n using digits.induct with
  | case1 n h =>
    rw [digits, if_pos h]
    simpa using hn
  | case2 n h ih =>
    rw [digits, if_neg h, List.head?_append, Option.or_of_isSome
      (List.isSome_head?.2 (digits_ne_nil _))]
    exact ih (by omega)

/-- A number is written with a digit at the beginning, which is a zero for zero only. -/
theorem natBytes_eq_cons (n : Nat) :
    ∃ d bs, natBytes n = digitByte d :: bs ∧ d < 10 ∧ (n ≠ 0 → d ≠ 0) := by
  obtain ⟨d, ds, hds⟩ := List.exists_cons_of_ne_nil (digits_ne_nil n)
  have hten : d < 10 := lt_ten_of_mem_digits (n := n) (hds ▸ List.mem_cons_self ..)
  refine ⟨d, ds.map digitByte, by rw [natBytes_eq, hds, List.map_cons], hten, ?_⟩
  intro hn hd
  exact head?_digits hn (by rw [hds, hd]; rfl)

theorem scanWhole_natBytes (n : Nat) {rest : Bytes} (hrest : EndsNumeral rest) :
    scanWhole (natBytes n ++ rest) = some (digits n, rest) := by
  have hspan := spanDigits_digitBytes (fun d hd => lt_ten_of_mem_digits (n := n) hd) hrest
  obtain ⟨d, bs, hbytes, hten, hzero⟩ := natBytes_eq_cons n
  by_cases hn : n = 0
  · subst hn
    have hdigits : digits 0 = [0] := by rw [digits, if_pos (by decide)]
    rw [natBytes_eq, hdigits]
    rfl
  · -- the first digit is no zero, so all of them are taken
    have hbyte : digitByte d ≠ 0x30 := by
      have hall : ∀ d < 10, d ≠ 0 → digitByte d ≠ 0x30 := by decide
      exact hall d hten (hzero hn)
    rw [← natBytes_eq] at hspan
    rw [scanWhole.eq_def]
    split
    · next bs heq =>
      rw [hbytes, List.cons_append] at heq
      exact absurd (List.cons.inj heq).1 hbyte
    · rw [hspan, if_neg (digits_ne_nil n)]

theorem scanFraction_of_ends {rest : Bytes} (h : EndsNumeral rest) :
    scanFraction rest = some (none, rest) := by
  unfold scanFraction
  split
  · exact absurd rfl (endsNumeral_cons.1 h).2.1
  · rfl

theorem scanExponent_of_ends {rest : Bytes} (h : EndsNumeral rest) :
    scanExponent rest = some (none, rest) := by
  cases rest with
  | nil => rfl
  | cons b rest =>
    obtain ⟨-, -, h65, h45⟩ := endsNumeral_cons.1 h
    have hb : ¬ (b = 0x65 ∨ b = 0x45) := by rintro (h | h) <;> contradiction
    unfold scanExponent
    simp only [if_neg hb]

/-- More digits make a number no smaller. -/
theorem le_appendDigits (ds : List Nat) : ∀ n, n ≤ appendDigits n ds := by
  induction ds with
  | nil => intro n; exact Nat.le_refl n
  | cons d ds ih =>
    intro n
    have h := ih (10 * n + d)
    rw [appendDigits_cons]
    omega

/-- Digits that make up a number of 64 bits all fit. -/
theorem fitDigits_of_lt (ds : List Nat) : ∀ n, appendDigits n ds < UInt64.size →
    fitDigits n ds = (appendDigits n ds, 0) := by
  induction ds with
  | nil => intro n _; rfl
  | cons d ds ih =>
    intro n h
    have hle : 10 * n + d ≤ appendDigits (10 * n + d) ds := le_appendDigits _ _
    rw [appendDigits_cons] at h ⊢
    rw [fitDigits, if_pos (Nat.lt_of_le_of_lt hle h), ih _ h]

theorem fitDigits_digits {n : Nat} (h : n < UInt64.size) : fitDigits 0 (digits n) = (n, 0) := by
  have hn : appendDigits 0 (digits n) = n := ofDigits_digits n
  rw [fitDigits_of_lt _ _ (by rw [hn]; exact h), hn]

theorem scanUnsigned_natBytes (negative : Bool) (n : Nat) {rest : Bytes}
    (hrest : EndsNumeral rest) :
    scanUnsigned negative (natBytes n ++ rest) =
      some (numeralOf negative (digits n) none none, rest) := by
  simp only [scanUnsigned, scanWhole_natBytes n hrest, scanFraction_of_ends hrest,
    scanExponent_of_ends hrest, Option.bind_eq_bind, Option.bind_some]
  rfl

/-- **A whole number of 64 bits, signed or not, is scanned.** -/
theorem scanNumber_intBytes {n : Int} (hlow : -2 ^ 63 ≤ n) (hhigh : n < 2 ^ 64) {rest : Bytes}
    (hrest : EndsNumeral rest) : scanNumber (intBytes n ++ rest) = some (.int n, rest) := by
  have hfit : fitDigits 0 (digits n.natAbs) = (n.natAbs, 0) :=
    fitDigits_digits (by simp only [UInt64.size]; omega)
  unfold intBytes
  split
  · next hneg =>
    have hmin : Int64.minValue.toInt.natAbs = 2 ^ 63 := by decide
    rw [List.cons_append, scanNumber, scanUnsigned_natBytes _ _ hrest, numeralOf, hfit]
    simp only [Bool.true_eq_false, and_false, if_false]
    rw [if_pos ⟨trivial, by omega, by omega⟩, Int.ofNat_natAbs_of_nonpos (by omega), Int.neg_neg]
  · next hneg =>
    obtain ⟨d, bs, hbytes, hten, -⟩ := natBytes_eq_cons n.natAbs
    have hbyte : digitByte d ≠ 0x2D := by
      have hall : ∀ d < 10, digitByte d ≠ 0x2D := by decide
      exact hall d hten
    rw [scanNumber.eq_def]
    split
    · next bs heq =>
      rw [hbytes, List.cons_append] at heq
      exact absurd (List.cons.inj heq).1 hbyte
    · rw [scanUnsigned_natBytes _ _ hrest, numeralOf, hfit]
      simp only [and_self, if_true]
      rw [Int.natAbs_of_nonneg (by omega)]

/-! ### Strings -/

/-- What a byte of a text is scanned as: an escape by number, or itself. -/
def pieceOf (b : UInt8) : Piece :=
  if b < 0x20 ∧ b ∉ [0x08, 0x09, 0x0A, 0x0C, 0x0D] then .unit b.toNat else .byte b

theorem hexUnit_hexDigits :
    ∀ n < 0x20, hexUnit 0x30 0x30 (hexDigit (n / 16)) (hexDigit (n % 16)) = some n := by decide

/-- A backslash and a letter are scanned as the byte that they stand for. -/
theorem scanPieces_backslash {e b : UInt8} (h : escapedByte e = some b) (bs : Bytes) :
    scanPieces (0x5C :: e :: bs) = (scanPieces bs).map fun r => (.byte b :: r.1, r.2) := by
  have he : e ≠ 0x75 := by
    rintro rfl
    cases h
  rw [scanPieces, h]
  · cases scanPieces bs <;> rfl
  · exact fun _ _ _ _ _ heq => absurd heq he

/-- A byte of a text is scanned as its piece. -/
theorem scanPieces_escape (b : UInt8) (bs : Bytes) :
    scanPieces (escape b ++ bs) = (scanPieces bs).map fun r => (pieceOf b :: r.1, r.2) := by
  unfold escape
  split_ifs with h22 h08 h09 h0A h0C h0D h20
  · rcases h22 with rfl | rfl
    · exact scanPieces_backslash rfl bs
    · exact scanPieces_backslash rfl bs
  · subst h08
    exact scanPieces_backslash rfl bs
  · subst h09
    exact scanPieces_backslash rfl bs
  · subst h0A
    exact scanPieces_backslash rfl bs
  · subst h0C
    exact scanPieces_backslash rfl bs
  · subst h0D
    exact scanPieces_backslash rfl bs
  · have hn : b.toNat < 0x20 := UInt8.lt_iff_toNat_lt.1 h20
    have hpiece : pieceOf b = .unit b.toNat := by simp [pieceOf, h20, h08, h09, h0A, h0C, h0D]
    rw [hpiece]
    cases h : scanPieces bs <;> simp [scanPieces, hexUnit_hexDigits _ hn, h]
  · have hpiece : pieceOf b = .byte b := by simp [pieceOf, h20]
    rw [hpiece, List.singleton_append, scanPieces.eq_def]
    split
    · next heq => cases heq
    · next heq => exact absurd (.inl (List.cons.inj heq).1) h22
    · next heq => exact absurd (.inr (List.cons.inj heq).1) h22
    · next heq => exact absurd (.inr (List.cons.inj heq).1) h22
    · next c cs _ _ _ heq =>
      obtain ⟨rfl, rfl⟩ := List.cons.inj heq
      rw [if_neg h20]
      cases scanPieces bs <;> rfl

theorem scanPieces_flatMap (bs rest : Bytes) :
    scanPieces (bs.flatMap escape ++ 0x22 :: rest) = some (bs.map pieceOf, rest) := by
  induction bs with
  | nil => rfl
  | cons b bs ih => rw [List.flatMap_cons, List.append_assoc, scanPieces_escape, ih]; rfl

theorem utf8EncodeChar_control : ∀ n < 0x20,
    String.utf8EncodeChar (Char.ofNat n) = [UInt8.ofNat n] := by decide

/-- A piece stands for its byte, whatever pieces follow. -/
theorem joinPieces_pieceOf (b : UInt8) (ps : List Piece) :
    joinPieces (pieceOf b :: ps) = (joinPieces ps).map (b :: ·) := by
  unfold pieceOf
  split
  · next h =>
    have hn : b.toNat < 0x20 := UInt8.lt_iff_toNat_lt.1 h.1
    have hlead : isLeading b.toNat = false := by
      simp only [isLeading, Bool.and_eq_false_iff, decide_eq_false_iff_not]
      omega
    have htrail : isTrailing b.toNat = false := by
      simp only [isTrailing, Bool.and_eq_false_iff, decide_eq_false_iff_not]
      omega
    have hbytes := utf8EncodeChar_control _ hn
    rw [UInt8.ofNat_toNat] at hbytes
    cases ps with
    | nil => simp [joinPieces, hlead, htrail, hbytes]
    | cons p ps =>
      cases p <;> simp [joinPieces, hlead, htrail, hbytes]
  · rw [joinPieces]

/-- The pieces of a text give its bytes. -/
theorem joinPieces_map (bs : Bytes) : joinPieces (bs.map pieceOf) = some bs := by
  induction bs with
  | nil => rfl
  | cons b bs ih =>
    rw [List.map_cons, joinPieces_pieceOf, ih]
    rfl

theorem stringToken_map (s : String) : stringToken ((utf8Bytes s).map pieceOf) = .str s := by
  rw [stringToken, joinPieces_map, Option.bind_some, ofUtf8?_utf8Bytes]

/-! ### Tokens -/

/-- A lexical element that scanning gives back as it is: a number has to be a whole one of 64 bits,
signed or not. -/
def Token.Exact : Token → Prop
  | .num (.int n) => -2 ^ 63 ≤ n ∧ n < 2 ^ 64
  | .num (.real ..) => False
  | _ => True

/-- Whether a lexical element is a number. -/
def Token.isNumeral : Token → Bool
  | .num _ => Bool.true
  | _ => Bool.false

/-- A byte that begins a number begins nothing else. -/
theorem scanToken_of_numeral {b : UInt8} (hb : b = 0x2D ∨ ∃ d < 10, b = digitByte d) (bs : Bytes) :
    isSpace b = false ∧ scanToken b bs = (scanNumber (b :: bs)).map fun r => (.num r.1, r.2) := by
  have hall : isSpace b = false ∧ punctuation b = none ∧ b ≠ 0x22 ∧ b ≠ 0x6E ∧ b ≠ 0x74 ∧
      b ≠ 0x66 := by
    rcases hb with rfl | ⟨d, hd, rfl⟩
    · decide
    · have hdigits : ∀ d < 10, isSpace (digitByte d) = false ∧ punctuation (digitByte d) = none ∧
          digitByte d ≠ 0x22 ∧ digitByte d ≠ 0x6E ∧ digitByte d ≠ 0x74 ∧ digitByte d ≠ 0x66 := by
        decide
      exact hdigits d hd
  obtain ⟨hspace, hpunct, hquote, hn, ht, hf⟩ := hall
  have hword : scanWord (b :: bs) = none := by
    unfold scanWord
    split
    · next heq => exact absurd (List.cons.inj heq).1 hn
    · next heq => exact absurd (List.cons.inj heq).1 ht
    · next heq => exact absurd (List.cons.inj heq).1 hf
    · rfl
  refine ⟨hspace, ?_⟩
  rw [scanToken, hpunct]
  simp only [if_neg hquote, hword]

theorem intBytes_eq_cons (n : Int) :
    ∃ b bs, intBytes n = b :: bs ∧ (b = 0x2D ∨ ∃ d < 10, b = digitByte d) := by
  unfold intBytes
  split
  · exact ⟨_, _, rfl, .inl rfl⟩
  · obtain ⟨d, bs, hbytes, hten, -⟩ := natBytes_eq_cons n.natAbs
    exact ⟨digitByte d, bs, hbytes, .inr ⟨d, hten, rfl⟩⟩

/-- **Every exact lexical element is scanned**, whatever follows it, a number if something ends
it. -/
theorem scanToken_bytes {t : Token} (ht : t.Exact) {rest : Bytes}
    (hrest : t.isNumeral = true → EndsNumeral rest) :
    ∃ b bs, t.bytes = b :: bs ∧ isSpace b = false ∧ scanToken b (bs ++ rest) = some (t, rest) := by
  cases t with
  | openBrace | closeBrace | openBracket | closeBracket | colon | comma | null | true | false
  | garbled => exact ⟨_, _, rfl, by decide, rfl⟩
  | num n =>
    cases n with
    | real => exact ht.elim
    | int n =>
      obtain ⟨b, bs, hbytes, hb⟩ := intBytes_eq_cons n
      obtain ⟨hspace, hscan⟩ := scanToken_of_numeral hb (bs ++ rest)
      refine ⟨b, bs, hbytes, hspace, ?_⟩
      rw [hscan, ← List.cons_append, ← hbytes, scanNumber_intBytes ht.1 ht.2 (hrest rfl)]
      rfl
  | str s =>
    refine ⟨0x22, (utf8Bytes s).flatMap escape ++ [0x22], rfl, by decide, ?_⟩
    have hquote : scanToken 0x22 ((utf8Bytes s).flatMap escape ++ 0x22 :: rest) =
        (scanPieces ((utf8Bytes s).flatMap escape ++ 0x22 :: rest)).map
          fun r => (stringToken r.1, r.2) := rfl
    rw [List.append_assoc, List.singleton_append, hquote, scanPieces_flatMap, Option.map_some,
      stringToken_map]

/-! ### The bytes that are written -/

theorem printed_natBytes (n : Nat) : ∀ b ∈ natBytes n, 0x20 ≤ b ∧ b < 0x80 := by
  intro b hb
  obtain ⟨d, hd, rfl⟩ := List.mem_map.1 hb
  have hall : ∀ d < 10, 0x20 ≤ digitByte d ∧ digitByte d < 0x80 := by decide
  exact hall d (lt_ten_of_mem_digits hd)

theorem printed_intBytes (n : Int) : ∀ b ∈ intBytes n, 0x20 ≤ b ∧ b < 0x80 := by
  intro b hb
  unfold intBytes at hb
  split at hb
  · rcases List.mem_cons.1 hb with rfl | hb
    · decide
    · exact printed_natBytes _ b hb
  · exact printed_natBytes _ b hb

theorem printed_numeral (n : Numeral) : ∀ b ∈ n.bytes, 0x20 ≤ b ∧ b < 0x80 := by
  intro b hb
  cases n with
  | int n => exact printed_intBytes n b hb
  | real negative significand exponent =>
    rcases List.mem_append.1 hb with hb | hb
    · rcases List.mem_append.1 hb with hb | hb
      · cases negative with
        | false => cases hb
        | true => rw [List.mem_singleton.1 hb]; decide
      · exact printed_natBytes _ b hb
    · rcases List.mem_cons.1 hb with rfl | hb
      · decide
      · exact printed_intBytes _ b hb

/-- Between quotes no control character is left, and only ASCII of ASCII. -/
theorem printed_escape {b c : UInt8} (h : c ∈ escape b) : 0x20 ≤ c ∧ (b < 0x80 → c < 0x80) := by
  have hfixed {bs : Bytes} (hbs : ∀ d ∈ bs, 0x20 ≤ d ∧ d < 0x80) (hc : c ∈ bs) :
      0x20 ≤ c ∧ (b < 0x80 → c < 0x80) := ⟨(hbs c hc).1, fun _ => (hbs c hc).2⟩
  have hhex : ∀ n < 16, 0x20 ≤ hexDigit n ∧ hexDigit n < 0x80 := by decide
  unfold escape at h
  split_ifs at h with h22 h08 h09 h0A h0C h0D h20
  · rcases h22 with rfl | rfl
    · exact hfixed (by simp) h
    · exact hfixed (by simp) h
  · exact hfixed (by simp) h
  · exact hfixed (by simp) h
  · exact hfixed (by simp) h
  · exact hfixed (by simp) h
  · exact hfixed (by simp) h
  · have hn : b.toNat < 0x20 := UInt8.lt_iff_toNat_lt.1 h20
    exact hfixed (by simp [hhex (b.toNat / 16) (by omega), hhex (b.toNat % 16) (by omega)]) h
  · rw [List.mem_singleton.1 h]
    exact ⟨UInt8.not_lt.1 h20, id⟩

/-- **A lexical element is written without control characters**, and in ASCII unless it is a string
that is not. -/
theorem printed_bytes {t : Token} {b : UInt8} (hb : b ∈ t.bytes) :
    0x20 ≤ b ∧ ((∀ s, t = .str s → ∀ c ∈ utf8Bytes s, c < 0x80) → b < 0x80) := by
  have hfixed {bs : Bytes} (hbs : ∀ d ∈ bs, 0x20 ≤ d ∧ d < 0x80) (hb : b ∈ bs) :
      0x20 ≤ b ∧ ((∀ s, t = .str s → ∀ c ∈ utf8Bytes s, c < 0x80) → b < 0x80) :=
    ⟨(hbs b hb).1, fun _ => (hbs b hb).2⟩
  cases t with
  | openBrace | closeBrace | openBracket | closeBracket | colon | comma | null | true | false
  | garbled => exact hfixed (by simp [Token.bytes]) hb
  | num n => exact hfixed (printed_numeral n) hb
  | str s =>
    have hquote : b ∈ [0x22] → 0x20 ≤ b ∧ (_ → b < 0x80) := hfixed (by simp)
    rcases List.mem_cons.1 hb with rfl | hb
    · exact hquote (List.mem_singleton_self _)
    · rcases List.mem_append.1 hb with hb | hb
      · obtain ⟨c, hc, hb⟩ := List.mem_flatMap.1 hb
        exact ⟨(printed_escape hb).1, fun h => (printed_escape hb).2 (h s rfl c hc)⟩
      · exact hquote hb

end SubtitleCoverage.Json
