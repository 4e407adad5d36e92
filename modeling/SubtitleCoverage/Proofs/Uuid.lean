import Mathlib.Algebra.Order.Ring.Nat
import SubtitleCoverage.Uuid

/-!
# Universal names, written and read

## Main results

* `readHex_hexChars` — digits written are read, as far as they hold the number.
* `joinGroups_hyphenate` — hyphens written are taken out again.
* `Uuid.ofText?_text` — **a universal name is read from its text**.
* `Uuid.mem_text` — the text has hexadecimal digits and hyphens only.
-/

namespace SubtitleCoverage

open Text

namespace Text

/-! ### Hexadecimal digits -/

theorem hexValue?_hexChar : ∀ d < 16, hexValue? (hexChar d) = some d := by decide

theorem length_hexChars (count n : Nat) : (hexChars count n).length = count := by
  induction count generalizing n with
  | zero => rfl
  | succ count ih => rw [hexChars, List.length_append, ih]; rfl

theorem exists_of_mem_hexChars {count n : Nat} {c : Char} (h : c ∈ hexChars count n) :
    ∃ d < 16, c = hexChar d := by
  induction count generalizing n with
  | zero => cases h
  | succ count ih =>
    rcases List.mem_append.1 h with h | h
    · exact ih h
    · exact ⟨n % 16, Nat.mod_lt _ (by decide), List.mem_singleton.1 h⟩

theorem readHex_concat (cs : List Char) (c : Char) :
    readHex (cs ++ [c]) = (readHex cs).bind fun n => (hexValue? c).map (16 * n + ·) := by
  simp [readHex, List.foldlM_append]

/-- Digits that are written are read, as far as they hold the number. -/
theorem readHex_hexChars (count n : Nat) : readHex (hexChars count n) = some (n % 16 ^ count) := by
  induction count generalizing n with
  | zero => rw [Nat.pow_zero, Nat.mod_one]; rfl
  | succ count ih =>
    have hdigit := hexValue?_hexChar (n % 16) (Nat.mod_lt _ (by decide))
    have hmod : 16 * (n / 16 % 16 ^ count) + n % 16 = n % 16 ^ (count + 1) := by
      rw [Nat.pow_succ', Nat.mod_mul]
      omega
    rw [hexChars, readHex_concat, ih, Option.bind_some, hdigit, Option.map_some, hmod]

end Text

namespace Uuid

/-! ### Hyphens -/

/-- Hyphens written between groups are taken out again. -/
theorem joinGroups_hyphenate {n : Nat} {ns : List Nat} {cs : List Char}
    (h : cs.length = (n :: ns).sum) : joinGroups (n :: ns) (hyphenate (n :: ns) cs) = some cs := by
  induction ns generalizing n cs with
  | nil =>
    have hn : cs.length = n := by simpa using h
    rw [hyphenate, joinGroups, List.take_of_length_le (by omega), if_pos hn]
  | cons m ns ih =>
    have hsum : (cs.drop n).length = (m :: ns).sum := by
      rw [List.length_drop, h, List.sum_cons]
      omega
    have hlen : (cs.take n).length = n := by
      rw [List.length_take, h, List.sum_cons]
      omega
    rw [hyphenate, joinGroups, List.drop_left' hlen, List.take_left' hlen]
    · simp only [ih hsum, Option.map_some, List.take_append_drop]
    · simp
    · simp

theorem mem_hyphenate {ns : List Nat} {cs : List Char} {c : Char} (h : c ∈ hyphenate ns cs) :
    c ∈ cs ∨ c = '-' := by
  fun_induction hyphenate ns cs with
  | case1 => cases h
  | case2 cs n => exact .inl (List.mem_of_mem_take h)
  | case3 cs n ns _ ih =>
    rcases List.mem_append.1 h with h | h
    · exact .inl (List.mem_of_mem_take h)
    · rcases List.mem_cons.1 h with rfl | h
      · exact .inr rfl
      · exact (ih h).imp_left List.mem_of_mem_drop

/-! ### Names -/

/-- The text of a name has hexadecimal digits and hyphens only. -/
theorem mem_text {i : Uuid} {c : Char} (h : c ∈ i.text.toList) :
    (∃ d < 16, c = hexChar d) ∨ c = '-' := by
  rw [text, String.toList_ofList] at h
  exact (mem_hyphenate h).imp_left exists_of_mem_hexChars

theorem ofDigits?_hexChars (i : Uuid) : ofDigits? (hexChars 32 i.bits.toNat) = some i := by
  have hmod : i.bits.toNat % 16 ^ 32 = i.bits.toNat := Nat.mod_eq_of_lt i.bits.isLt
  rw [ofDigits?, if_pos (length_hexChars _ _), readHex_hexChars, hmod, Option.map_some, ofNat,
    BitVec.ofNat_toNat, BitVec.setWidth_eq]

theorem length_hyphenate {n : Nat} {ns : List Nat} {cs : List Char}
    (h : cs.length = (n :: ns).sum) :
    (hyphenate (n :: ns) cs).length = cs.length + ns.length := by
  induction ns generalizing n cs with
  | nil =>
    have hn : cs.length = n := by simpa using h
    rw [hyphenate, List.take_of_length_le (by omega)]
    rfl
  | cons m ns ih =>
    rw [List.sum_cons] at h
    have hdrop : (cs.drop n).length = (m :: ns).sum := by rw [List.length_drop, h]; omega
    rw [hyphenate, List.length_append, List.length_cons, ih hdrop, List.length_take,
      List.length_drop, List.length_cons]
    · omega
    · simp

theorem length_hexChars_groups (n : Nat) : (hexChars 32 n).length = groups.sum :=
  length_hexChars 32 n

/-- A text is longer than its digits. -/
theorem length_text (i : Uuid) : i.text.toList.length = 36 := by
  rw [text, String.toList_ofList, groups, length_hyphenate (length_hexChars_groups _),
    length_hexChars]
  rfl

/-- The text of a name begins with a hexadecimal digit. -/
theorem exists_text (i : Uuid) : ∃ d < 16, ∃ cs, i.text.toList = hexChar d :: cs := by
  obtain ⟨c, cs, hcs⟩ : ∃ c cs, hexChars 32 i.bits.toNat = c :: cs :=
    List.exists_cons_of_length_pos (by rw [length_hexChars]; decide)
  obtain ⟨d, hd, rfl⟩ := exists_of_mem_hexChars (hcs ▸ List.mem_cons_self ..)
  refine ⟨d, hd, cs.take 7 ++ '-' :: hyphenate [4, 4, 4, 12] (cs.drop 7), ?_⟩
  rw [text, String.toList_ofList, hcs]
  rfl

/-- A text that begins with a hexadecimal digit has neither a brace nor the word in front. -/
theorem ofText?_of_digit {d : Nat} (hd : d < 16) {cs : List Char} {s : String}
    (hs : s.toList = hexChar d :: cs) (hlen : s.toList.length ≠ 32) :
    ofText? s = ofHyphenated? s.toList := by
  have hall : ∀ d < 16, hexChar d ≠ '\x7b' ∧ (hexChar d).toLower ≠ 'u' := by decide
  obtain ⟨hbrace, hu⟩ := hall d hd
  have hword : afterWord? "urn:uuid:".toList (hexChar d :: cs) = none := by
    show (if (hexChar d).toLower = 'u' then _ else _) = _
    rw [if_neg hu]
  rw [ofText?]
  simp only [hs] at hlen ⊢
  rw [if_neg hlen]
  split
  · next heq => exact absurd (List.cons.inj heq).1 hbrace
  · rw [hword]

/-- **A universal name is read from its text.** -/
theorem ofText?_text (i : Uuid) : ofText? i.text = some i := by
  obtain ⟨d, hd, cs, hcs⟩ := exists_text i
  have hlen : i.text.toList.length ≠ 32 := by rw [length_text]; decide
  rw [ofText?_of_digit hd hcs hlen, ofHyphenated?, text, String.toList_ofList, groups,
    joinGroups_hyphenate (length_hexChars_groups _), Option.bind_some, ofDigits?_hexChars]

end Uuid

end SubtitleCoverage
