import SubtitleCoverage.Proofs.Text.Utf8

/-!
# Texts in UTF-8

The reader of bytes replaces what is broken, so it never fails.  Where nothing is broken it gives
back the text that was written, whatever characters are in it.

## Main definitions

* `IsUtf8 bs` — the bytes are those of some text.

## Main results

* `readUtf8_utf8EncodeChar` — the bytes of a character are read as the character.
* `readUtf8_flatMap` — the bytes of characters are read as them.
* `IsUtf8.utf8Bytes_utf8Text` — **bytes of a text are those of the text that is read from them**.
-/

namespace SubtitleCoverage.Text

/-! ### One character -/

theorem toNat_byte {n : Nat} (h : n < 256) : (UInt8.ofNat n).toNat = n := by
  rw [UInt8.toNat_ofNat']
  exact Nat.mod_eq_of_lt h

/-- A byte that begins a character of several bytes. -/
theorem readUtf8_first {b : UInt8} {p : Pending} (h : lead b = .several p) (bs : Bytes) :
    readUtf8 (b :: bs) = readUtf8From (some p) bs := by
  rw [readUtf8, readUtf8From_cons, readByte, beginChar, h]
  rfl

/-- One byte more of a character that goes on after it. -/
theorem readUtf8From_middle {bits missing lowest highest n : Nat} (h : n < 64)
    (hlow : lowest ≤ n + 128) (hhigh : n + 128 ≤ highest) (bs : Bytes) :
    readUtf8From (some ⟨bits, missing + 2, lowest, highest⟩) (UInt8.ofNat (n + 128) :: bs) =
      readUtf8From (some ⟨64 * bits + n, missing + 1, 0x80, 0xBF⟩) bs := by
  rw [readUtf8From_cons, readByte]
  simp only [toNat_byte (show n + 128 < 256 by omega)]
  rw [if_pos ⟨hlow, hhigh⟩, if_neg (by omega), Nat.add_sub_cancel]
  rfl

/-- The last byte of a character. -/
theorem readUtf8From_last {bits lowest highest n : Nat} (h : n < 64) (hlow : lowest ≤ n + 128)
    (hhigh : n + 128 ≤ highest) (bs : Bytes) :
    readUtf8From (some ⟨bits, 1, lowest, highest⟩) (UInt8.ofNat (n + 128) :: bs) =
      Char.ofNat (64 * bits + n) :: readUtf8 bs := by
  rw [readUtf8From_cons, readByte]
  simp only [toNat_byte (show n + 128 < 256 by omega)]
  rw [if_pos ⟨hlow, hhigh⟩, if_pos (Nat.le_refl 1), Nat.add_sub_cancel]
  rfl

/-- The first of two bytes. -/
theorem lead_of_two {n : Nat} (hlow : 0x80 ≤ n) (hhigh : n < 0x800) :
    lead (UInt8.ofNat (n / 64 % 32 + 192)) = .several ⟨n / 64, 1, 0x80, 0xBF⟩ := by
  have hbits : n / 64 % 32 + 192 - 0xC0 = n / 64 := by omega
  simp only [lead, toNat_byte (show n / 64 % 32 + 192 < 256 by omega), hbits]
  rw [if_neg (by omega), if_neg (by omega), if_pos (by omega)]

/-- The first of three bytes.  The bounds on the second one, which keep out overlong forms and
surrogates, let it pass. -/
theorem lead_of_three {n : Nat} (hlow : 0x800 ≤ n) (hhigh : n < 0x10000)
    (hvalid : n < 0xD800 ∨ 0xDFFF < n) :
    ∃ lowest highest, lead (UInt8.ofNat (n / 4096 % 16 + 224)) =
      .several ⟨n / 4096, 2, lowest, highest⟩ ∧ lowest ≤ n / 64 % 64 + 128 ∧
        n / 64 % 64 + 128 ≤ highest := by
  have hbits : n / 4096 % 16 + 224 - 0xE0 = n / 4096 := by omega
  simp only [lead, toNat_byte (show n / 4096 % 16 + 224 < 256 by omega), hbits]
  rw [if_neg (by omega), if_neg (by omega), if_neg (by omega)]
  by_cases hE0 : n / 4096 = 0
  · rw [if_pos (by omega), hE0]
    exact ⟨_, _, rfl, by omega, by omega⟩
  · rw [if_neg (by omega)]
    by_cases hED : n / 4096 = 0xD
    · rw [if_pos (by omega), hED]
      exact ⟨_, _, rfl, by omega, by omega⟩
    · rw [if_neg (by omega), if_pos (by omega)]
      exact ⟨_, _, rfl, by omega, by omega⟩

/-- The first of four bytes.  The bounds on the second one, which keep out overlong forms and numbers
that are no code points, let it pass. -/
theorem lead_of_four {n : Nat} (hlow : 0x10000 ≤ n) (hhigh : n < 0x110000) :
    ∃ lowest highest, lead (UInt8.ofNat (n / 262144 % 8 + 240)) =
      .several ⟨n / 262144, 3, lowest, highest⟩ ∧ lowest ≤ n / 4096 % 64 + 128 ∧
        n / 4096 % 64 + 128 ≤ highest := by
  have hbits : n / 262144 % 8 + 240 - 0xF0 = n / 262144 := by omega
  simp only [lead, toNat_byte (show n / 262144 % 8 + 240 < 256 by omega), hbits]
  rw [if_neg (by omega), if_neg (by omega), if_neg (by omega), if_neg (by omega),
    if_neg (by omega), if_neg (by omega)]
  by_cases hF0 : n / 262144 = 0
  · rw [if_pos (by omega), hF0]
    exact ⟨_, _, rfl, by omega, by omega⟩
  · rw [if_neg (by omega)]
    by_cases hF4 : n / 262144 = 4
    · rw [if_neg (by omega), if_pos (by omega), hF4]
      exact ⟨_, _, rfl, by omega, by omega⟩
    · rw [if_pos (by omega)]
      exact ⟨_, _, rfl, by omega, by omega⟩

/-- **The bytes of a character are read as the character**, whatever follows. -/
theorem readUtf8_utf8EncodeChar (c : Char) (bs : Bytes) :
    readUtf8 (String.utf8EncodeChar c ++ bs) = c :: readUtf8 bs := by
  have hvalid : c.toNat < 0xD800 ∨ 0xDFFF < c.toNat ∧ c.toNat < 0x110000 := c.valid
  have hchar {n : Nat} (h : n = c.toNat) : Char.ofNat n = c := by rw [h, Char.ofNat_toNat]
  unfold String.utf8EncodeChar
  simp only [show c.val.toNat = c.toNat from rfl]
  split_ifs with h1 h2 h3
  · have hbyte : UInt8.ofNat c.toNat < 0x80 := by
      rw [UInt8.lt_iff_toNat_lt, toNat_byte (by omega)]
      exact Nat.lt_succ_of_le h1
    have hread := readUtf8_append_cons [] bs hbyte
    rw [asciiChar, toNat_byte (by omega), Char.ofNat_toNat] at hread
    exact hread
  · rw [List.cons_append, readUtf8_first (lead_of_two (by omega) (by omega)), List.singleton_append,
      readUtf8From_last (by omega) (by omega) (by omega), hchar (by omega)]
  · obtain ⟨lowest, highest, hlead, hlow, hhigh⟩ :=
      lead_of_three (n := c.toNat) (by omega) (by omega) (by omega)
    rw [List.cons_append, readUtf8_first hlead, List.cons_append,
      readUtf8From_middle (by omega) hlow hhigh, List.singleton_append,
      readUtf8From_last (by omega) (by omega) (by omega), hchar (by omega)]
  · obtain ⟨lowest, highest, hlead, hlow, hhigh⟩ :=
      lead_of_four (n := c.toNat) (by omega) (by omega)
    rw [List.cons_append, readUtf8_first hlead, List.cons_append,
      readUtf8From_middle (by omega) hlow hhigh, List.cons_append,
      readUtf8From_middle (by omega) (by omega) (by omega), List.singleton_append,
      readUtf8From_last (by omega) (by omega) (by omega), hchar (by omega)]

/-- A character beyond ASCII has no ASCII byte. -/
theorem beyond_utf8EncodeChar {c : Char} (h : 0x80 ≤ c.toNat) :
    ∀ b ∈ String.utf8EncodeChar c, ¬ b < 0x80 := by
  have hbyte {n : Nat} (hlow : 0x80 ≤ n) (hhigh : n < 256) : ¬ UInt8.ofNat n < 0x80 := by
    rw [UInt8.lt_iff_toNat_lt, toNat_byte hhigh]
    exact Nat.not_lt.2 hlow
  unfold String.utf8EncodeChar
  simp only [show c.val.toNat = c.toNat from rfl]
  rw [if_neg (by omega)]
  split_ifs <;> simp only [List.forall_mem_cons]
  · exact ⟨hbyte (by omega) (by omega), hbyte (by omega) (by omega), fun _ h => nomatch h⟩
  · exact ⟨hbyte (by omega) (by omega), hbyte (by omega) (by omega), hbyte (by omega) (by omega),
      fun _ h => nomatch h⟩
  · exact ⟨hbyte (by omega) (by omega), hbyte (by omega) (by omega), hbyte (by omega) (by omega),
      hbyte (by omega) (by omega), fun _ h => nomatch h⟩

/-! ### Texts -/

/-- The bytes of characters are read as them. -/
theorem readUtf8_flatMap (cs : List Char) : readUtf8 (cs.flatMap String.utf8EncodeChar) = cs := by
  induction cs with
  | nil => rfl
  | cons c cs ih => rw [List.flatMap_cons, readUtf8_utf8EncodeChar, ih]

/-- The bytes are those of some text. -/
def IsUtf8 (bs : Bytes) : Prop := ∃ cs : List Char, bs = cs.flatMap String.utf8EncodeChar

namespace IsUtf8

theorem nil : IsUtf8 [] := ⟨[], rfl⟩

theorem append {as bs : Bytes} (ha : IsUtf8 as) (hb : IsUtf8 bs) : IsUtf8 (as ++ bs) := by
  obtain ⟨cs, rfl⟩ := ha
  obtain ⟨ds, rfl⟩ := hb
  exact ⟨cs ++ ds, List.flatMap_append.symm⟩

/-- Texts that are put together are a text. -/
theorem flatMap {α : Type} {f : α → Bytes} {xs : List α} (h : ∀ x ∈ xs, IsUtf8 (f x)) :
    IsUtf8 (xs.flatMap f) := by
  induction xs with
  | nil => exact nil
  | cons x xs ih =>
    obtain ⟨hx, hxs⟩ := List.forall_mem_cons.1 h
    rw [List.flatMap_cons]
    exact hx.append (ih hxs)

theorem char (c : Char) : IsUtf8 (String.utf8EncodeChar c) :=
  ⟨[c], by rw [List.flatMap_singleton]⟩

theorem ascii {bs : Bytes} (h : ∀ b ∈ bs, b < 0x80) : IsUtf8 bs := by
  refine ⟨bs.map asciiChar, ?_⟩
  rw [← utf8Bytes_ofList, utf8Bytes_asciiText h]

/-- **Bytes of a text are those of the text that is read from them.** -/
theorem utf8Bytes_utf8Text {bs : Bytes} (h : IsUtf8 bs) : utf8Bytes (utf8Text bs) = bs := by
  obtain ⟨cs, rfl⟩ := h
  rw [utf8Text, readUtf8_flatMap, utf8Bytes_ofList]

end IsUtf8

end SubtitleCoverage.Text
