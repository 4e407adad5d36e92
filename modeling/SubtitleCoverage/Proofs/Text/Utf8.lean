import Mathlib.Algebra.Order.Ring.Nat
import Mathlib.Tactic.SplitIfs
import SubtitleCoverage.Text.Utf8

/-!
# ASCII bytes in UTF-8

The bounds on the second byte of a character keep every character of several bytes among the code
points beyond ASCII.  So an ASCII byte of a text stands for itself wherever it comes, after a broken
character as well, and nothing else is read as an ASCII character.

## Main definitions

* `Pending.Sound` — a character begun that comes to a code point beyond ASCII however it goes on.

## Main results

* `sound_readByte` — reading begins sound characters only.
* `readUtf8_append_cons` — **an ASCII byte cuts a text in two**, and each part is read by itself.
* `beyond_of_head?`, `beyond_of_getLast?` — a text whose first or last byte is beyond ASCII begins
  or ends with a character beyond ASCII.
* `ofUtf8?_utf8Bytes` — the bytes of a text give the text back.
* `utf8Bytes_asciiText` — the bytes of a text of ASCII characters.
-/

namespace SubtitleCoverage.Text

/-! ### The code points that a character begun can come to -/

theorem toNat_ofNat {n : Nat} (h : n.isValidChar) : (Char.ofNat n).toNat = n := by
  rw [Char.ofNat, dif_pos h]
  rfl

namespace Pending

/-- The least number that a character begun can come to. -/
def least (p : Pending) : Nat := 64 ^ (p.missing - 1) * (64 * p.bits + (p.lowest - 0x80))

/-- The number after the greatest that a character begun can come to. -/
def bound (p : Pending) : Nat := 64 ^ (p.missing - 1) * (64 * p.bits + (p.highest - 0x80) + 1)

/-- Whatever bytes come next, a character begun comes to a code point beyond ASCII. -/
structure Sound (p : Pending) : Prop where
  missing : p.missing = 1 ∨ p.missing = 2 ∨ p.missing = 3
  continues : 0x80 ≤ p.lowest
  beyond : 0x80 ≤ p.least
  valid : p.bound ≤ 0xD800 ∨ 0xE000 ≤ p.least ∧ p.bound ≤ 0x110000

/-- The same by the numbers that are known of the character. -/
theorem sound_mk_iff {bits missing lowest highest : Nat} :
    Sound ⟨bits, missing, lowest, highest⟩ ↔
      (missing = 1 ∨ missing = 2 ∨ missing = 3) ∧ 0x80 ≤ lowest ∧
      0x80 ≤ 64 ^ (missing - 1) * (64 * bits + (lowest - 0x80)) ∧
      (64 ^ (missing - 1) * (64 * bits + (highest - 0x80) + 1) ≤ 0xD800 ∨
        0xE000 ≤ 64 ^ (missing - 1) * (64 * bits + (lowest - 0x80)) ∧
          64 ^ (missing - 1) * (64 * bits + (highest - 0x80) + 1) ≤ 0x110000) := by
  constructor
  · rintro ⟨hmissing, hcont, hbeyond, hvalid⟩
    exact ⟨hmissing, hcont, hbeyond, hvalid⟩
  · rintro ⟨hmissing, hcont, hbeyond, hvalid⟩
    exact ⟨hmissing, hcont, hbeyond, hvalid⟩

/-- One byte more of a sound character. -/
theorem Sound.next {p : Pending} (h : p.Sound) (hm : ¬ p.missing ≤ 1) {n : Nat}
    (hlow : p.lowest ≤ n) (hhigh : n ≤ p.highest) :
    Sound ⟨64 * p.bits + (n - 0x80), p.missing - 1, 0x80, 0xBF⟩ := by
  obtain ⟨bits, missing, lowest, highest⟩ := p
  obtain ⟨hmissing, hcont, hbeyond, hvalid⟩ := sound_mk_iff.1 h
  simp only at hm hlow hhigh ⊢
  -- the numbers that are left are among those that the character could come to before
  rcases hmissing with rfl | rfl | rfl
  · exact absurd (Nat.le_refl 1) hm
  · exact sound_mk_iff.2 ⟨by omega, by omega, by omega, by omega⟩
  · exact sound_mk_iff.2 ⟨by omega, by omega, by omega, by omega⟩

/-- The last byte of a sound character. -/
theorem Sound.last {p : Pending} (h : p.Sound) (hm : p.missing ≤ 1) {n : Nat}
    (hlow : p.lowest ≤ n) (hhigh : n ≤ p.highest) :
    0x80 ≤ (Char.ofNat (64 * p.bits + (n - 0x80))).toNat := by
  obtain ⟨bits, missing, lowest, highest⟩ := p
  obtain ⟨hmissing, hcont, hbeyond, hvalid⟩ := sound_mk_iff.1 h
  simp only at hm hlow hhigh ⊢
  obtain rfl : missing = 1 := by omega
  rw [toNat_ofNat (by simp only [Nat.isValidChar]; omega)]
  omega

end Pending

/-- A byte beyond ASCII begins a sound character or none. -/
theorem sound_of_lead {b : UInt8} {p : Pending} (h : lead b = .several p) : p.Sound := by
  have hb := b.toNat_lt
  simp only [lead] at h
  split_ifs at h
  all_goals
    rw [← Lead.several.inj h]
    exact Pending.sound_mk_iff.2 ⟨by omega, by omega, by omega, by omega⟩

/-! ### One byte -/

/-- What comes of a character begun if none of its bytes follows. -/
def cutOff : Option Pending → List Char
  | none => []
  | some _ => [replacement]

theorem readUtf8From_nil (p : Option Pending) : readUtf8From p [] = cutOff p := by
  cases p <;> rfl

theorem readUtf8From_cons (p : Option Pending) (b : UInt8) (bs : Bytes) :
    readUtf8From p (b :: bs) = (readByte p b).1 ++ readUtf8From (readByte p b).2 bs := by
  rw [readUtf8From]

theorem beyond_cutOff {p : Option Pending} : ∀ c ∈ cutOff p, 0x80 ≤ c.toNat := by
  intro c hc
  cases p with
  | none => cases hc
  | some p =>
    rw [List.mem_singleton.1 hc]
    decide

/-- The character of an ASCII byte. -/
def asciiChar (b : UInt8) : Char := Char.ofNat b.toNat

theorem toNat_asciiChar (b : UInt8) : (asciiChar b).toNat = b.toNat := by
  have hb := b.toNat_lt
  exact toNat_ofNat (by simp only [Nat.isValidChar]; omega)

/-- Different bytes have different characters. -/
theorem asciiChar_injective {b c : UInt8} (h : asciiChar b = asciiChar c) : b = c :=
  UInt8.toNat_inj.1 (by rw [← toNat_asciiChar b, ← toNat_asciiChar c, h])

theorem beginChar_ascii {b : UInt8} (hb : b < 0x80) : beginChar b = ([asciiChar b], none) := by
  have hn : b.toNat < 0x80 := UInt8.lt_iff_toNat_lt.1 hb
  simp only [beginChar, lead, if_pos hn, asciiChar]

/-- An ASCII byte is a character of its own, after a character begun as well. -/
theorem readByte_ascii {p : Option Pending} (hp : ∀ q ∈ p, q.Sound) {b : UInt8} (hb : b < 0x80) :
    readByte p b = (cutOff p ++ [asciiChar b], none) := by
  cases p with
  | none => exact beginChar_ascii hb
  | some q =>
    have hn : b.toNat < 0x80 := UInt8.lt_iff_toNat_lt.1 hb
    have hcont := (hp q rfl).continues
    rw [readByte, if_neg (by omega), beginChar_ascii hb]
    rfl

theorem sound_beginChar (b : UInt8) : ∀ q ∈ (beginChar b).2, q.Sound := by
  intro q hq
  unfold beginChar at hq
  split at hq
  · cases hq
  · next p hlead => exact Option.some.inj hq ▸ sound_of_lead hlead
  · cases hq

/-- Reading begins sound characters only. -/
theorem sound_readByte {p : Option Pending} (hp : ∀ q ∈ p, q.Sound) (b : UInt8) :
    ∀ q ∈ (readByte p b).2, q.Sound := by
  cases p with
  | none => exact sound_beginChar b
  | some p =>
    rw [readByte]
    split_ifs with hrange hlast
    · exact fun q hq => nomatch hq
    · intro q hq
      exact Option.some.inj hq ▸ (hp p rfl).next hlast hrange.1 hrange.2
    · exact sound_beginChar b

/-- A byte beyond ASCII begins a sound character or is broken. -/
theorem beginChar_beyond {b : UInt8} (hb : ¬ b < 0x80) :
    (∃ p : Pending, p.Sound ∧ beginChar b = ([], some p)) ∨ beginChar b = ([replacement], none) := by
  have hn : ¬ b.toNat < 0x80 := fun h => hb (UInt8.lt_iff_toNat_lt.2 h)
  cases hlead : lead b with
  | whole c =>
    simp only [lead, if_neg hn] at hlead
    split_ifs at hlead
  | several p => exact .inl ⟨p, sound_of_lead hlead, by rw [beginChar, hlead]⟩
  | broken => exact .inr (by rw [beginChar, hlead])

theorem beyond_beginChar {b : UInt8} (hb : ¬ b < 0x80) :
    ∀ c ∈ (beginChar b).1, 0x80 ≤ c.toNat := by
  intro c hc
  rcases beginChar_beyond hb with ⟨p, -, h⟩ | h
  · rw [h] at hc
    cases hc
  · rw [h] at hc
    rw [List.mem_singleton.1 hc]
    decide

/-- A byte beyond ASCII completes characters beyond ASCII only. -/
theorem beyond_readByte {p : Option Pending} (hp : ∀ q ∈ p, q.Sound) {b : UInt8}
    (hb : ¬ b < 0x80) : ∀ c ∈ (readByte p b).1, 0x80 ≤ c.toNat := by
  cases p with
  | none => exact beyond_beginChar hb
  | some p =>
    rw [readByte]
    split_ifs with hrange hlast
    · intro c hc
      rw [List.mem_singleton.1 hc]
      exact (hp p rfl).last hlast hrange.1 hrange.2
    · exact fun c hc => nomatch hc
    · intro c hc
      rcases List.mem_cons.1 hc with rfl | hc
      · decide
      · exact beyond_beginChar hb c hc

/-! ### Reading in two parts -/

/-- Reading can stop after any byte and go on later. -/
theorem exists_readUtf8From_append (as : Bytes) :
    ∀ {p : Option Pending}, (∀ q ∈ p, q.Sound) → ∃ cs q, (∀ r ∈ q, r.Sound) ∧
      ∀ bs, readUtf8From p (as ++ bs) = cs ++ readUtf8From q bs := by
  induction as with
  | nil => exact fun {p} hp => ⟨[], p, hp, fun bs => rfl⟩
  | cons a as ih =>
    intro p hp
    obtain ⟨cs, q, hq, h⟩ := ih (sound_readByte hp a)
    refine ⟨(readByte p a).1 ++ cs, q, hq, fun bs => ?_⟩
    rw [List.cons_append, readUtf8From_cons, h, List.append_assoc]

theorem exists_readUtf8_append (as : Bytes) :
    ∃ cs q, (∀ r ∈ q, r.Sound) ∧ ∀ bs, readUtf8 (as ++ bs) = cs ++ readUtf8From q bs :=
  exists_readUtf8From_append as fun _ h => nomatch h

/-- **An ASCII byte cuts a text in two**, and each part is read by itself. -/
theorem readUtf8_append_cons (v w : Bytes) {b : UInt8} (hb : b < 0x80) :
    readUtf8 (v ++ b :: w) = readUtf8 v ++ asciiChar b :: readUtf8 w := by
  obtain ⟨cs, q, hq, h⟩ := exists_readUtf8_append v
  have hv : readUtf8 v = cs ++ cutOff q := by
    rw [← List.append_nil v, h, readUtf8From_nil]
  rw [h, hv, readUtf8From_cons, readByte_ascii hq hb]
  simp [readUtf8]

/-- ASCII bytes before other ones. -/
theorem readUtf8_ascii_append {v : Bytes} (hv : ∀ b ∈ v, b < 0x80) (w : Bytes) :
    readUtf8 (v ++ w) = v.map asciiChar ++ readUtf8 w := by
  induction v with
  | nil => rfl
  | cons b v ih =>
    have hb := readUtf8_append_cons [] (v ++ w) (hv b (List.mem_cons_self ..))
    rw [List.nil_append] at hb
    rw [List.cons_append, hb, ih fun c hc => hv c (List.mem_cons_of_mem _ hc)]
    rfl

theorem readUtf8_ascii {v : Bytes} (hv : ∀ b ∈ v, b < 0x80) : readUtf8 v = v.map asciiChar := by
  have h := readUtf8_ascii_append hv []
  rwa [List.append_nil, show readUtf8 [] = [] from rfl, List.append_nil] at h

/-- ASCII bytes after other ones. -/
theorem readUtf8_append_ascii (v : Bytes) {w : Bytes} (hw : ∀ b ∈ w, b < 0x80) :
    readUtf8 (v ++ w) = readUtf8 v ++ w.map asciiChar := by
  cases w with
  | nil => rw [List.append_nil, List.map_nil, List.append_nil]
  | cons b w =>
    rw [readUtf8_append_cons v w (hw b (List.mem_cons_self ..)),
      readUtf8_ascii fun c hc => hw c (List.mem_cons_of_mem _ hc), List.map_cons]

/-! ### The ends of a text -/

theorem beyond_head?_readUtf8From (bs : Bytes) : ∀ {p : Pending}, p.Sound →
    ∀ {c : Char}, (readUtf8From (some p) bs).head? = some c → 0x80 ≤ c.toNat := by
  induction bs with
  | nil =>
    intro p _ c hc
    rw [← Option.some.inj hc]
    decide
  | cons b bs ih =>
    intro p hp c hc
    rw [readUtf8From_cons, readByte] at hc
    split_ifs at hc with hrange hlast
    · rw [← Option.some.inj hc]
      exact hp.last hlast hrange.1 hrange.2
    · exact ih (hp.next hlast hrange.1 hrange.2) hc
    · rw [← Option.some.inj hc]
      decide

/-- A text whose first byte is beyond ASCII begins with a character beyond ASCII. -/
theorem beyond_of_head? {b : UInt8} (hb : ¬ b < 0x80) (bs : Bytes) {c : Char}
    (hc : (readUtf8 (b :: bs)).head? = some c) : 0x80 ≤ c.toNat := by
  rw [readUtf8, readUtf8From_cons, readByte] at hc
  rcases beginChar_beyond hb with ⟨p, hp, h⟩ | h
  · rw [h] at hc
    exact beyond_head?_readUtf8From bs hp hc
  · rw [h] at hc
    rw [← Option.some.inj hc]
    decide

/-- One byte is never without effect. -/
theorem readUtf8From_singleton_ne_nil (p : Option Pending) (b : UInt8) :
    readUtf8From p [b] ≠ [] := by
  have hbegin : (beginChar b).1 ++ cutOff (beginChar b).2 ≠ [] := by
    unfold beginChar
    split <;> simp [cutOff]
  rw [readUtf8From_cons, readUtf8From_nil]
  cases p with
  | none => exact hbegin
  | some p =>
    rw [readByte]
    split_ifs <;> simp [cutOff]

/-- A text whose last byte is beyond ASCII ends with a character beyond ASCII. -/
theorem beyond_of_getLast? (bs : Bytes) {b : UInt8} (hb : ¬ b < 0x80) {c : Char}
    (hc : (readUtf8 (bs ++ [b])).getLast? = some c) : 0x80 ≤ c.toNat := by
  obtain ⟨cs, q, hq, h⟩ := exists_readUtf8_append bs
  have hlast : ∀ d ∈ readUtf8From q [b], 0x80 ≤ d.toNat := by
    intro d hd
    rw [readUtf8From_cons, readUtf8From_nil] at hd
    rcases List.mem_append.1 hd with hd | hd
    · exact beyond_readByte hq hb d hd
    · exact beyond_cutOff d hd
  have hne := readUtf8From_singleton_ne_nil q b
  rw [h, List.getLast?_append, List.getLast?_eq_some_getLast hne, Option.some_or] at hc
  rw [← Option.some.inj hc]
  exact hlast _ (List.getLast_mem hne)

/-! ### Writing -/

theorem toList_toByteArray (bs : ByteArray) : bs.toList = bs.data.toList := by
  have hloop : ∀ i r, ByteArray.toList.loop bs i r = r.reverse ++ bs.data.toList.drop i := by
    intro i r
    induction i, r using ByteArray.toList.loop.induct bs with
    | case1 i r hlt ih =>
      have hi : i < bs.data.toList.length := by simpa using hlt
      have hget : bs.get! i = bs.data.toList[i] := by
        rw [Array.getElem_toList]
        exact getElem!_pos bs.data i hlt
      rw [ByteArray.toList.loop, if_pos hlt, ih, List.drop_eq_getElem_cons hi, hget,
        List.reverse_cons, List.append_assoc, List.singleton_append]
    | case2 i r hge =>
      have hi : bs.data.toList.length ≤ i := by simpa using hge
      rw [ByteArray.toList.loop, if_neg hge, List.drop_eq_nil_of_le hi, List.append_nil]
  rw [ByteArray.toList, hloop, List.reverse_nil, List.nil_append, List.drop_zero]

theorem utf8Bytes_eq (s : String) : utf8Bytes s = s.toByteArray.data.toList := by
  rw [utf8Bytes, String.toUTF8_eq_toByteArray, toList_toByteArray]

/-- The bytes of a text are those of its characters. -/
theorem utf8Bytes_ofList (cs : List Char) :
    utf8Bytes (String.ofList cs) = cs.flatMap String.utf8EncodeChar := by
  rw [utf8Bytes_eq, String.toByteArray_ofList, List.utf8Encode, List.toList_data_toByteArray]

/-- The bytes of a text give the text back. -/
theorem ofUtf8?_utf8Bytes (s : String) : ofUtf8? (utf8Bytes s) = some s := by
  have hbytes : ByteArray.mk (utf8Bytes s).toArray = s.toByteArray := by
    rw [utf8Bytes_eq, Array.toArray_toList]
  rw [ofUtf8?, hbytes, String.fromUTF8?, dif_pos s.isValidUTF8]
  rfl

theorem utf8EncodeChar_asciiChar {b : UInt8} (hb : b < 0x80) :
    String.utf8EncodeChar (asciiChar b) = [b] := by
  have hn : b.toNat < 0x80 := UInt8.lt_iff_toNat_lt.1 hb
  have hval := toNat_asciiChar b
  have hsize : (asciiChar b).utf8Size = 1 :=
    Char.utf8Size_eq_one_iff.2 (UInt32.le_iff_toNat_le.2 (by
      show (asciiChar b).toNat ≤ 127
      omega))
  have hbyte : (asciiChar b).val.toUInt8 = b := UInt8.toNat_inj.1 (by
    rw [UInt32.toNat_toUInt8]
    show (asciiChar b).toNat % 2 ^ 8 = b.toNat
    omega)
  rw [String.utf8EncodeChar_eq_singleton hsize, hbyte]

/-- The text of ASCII characters has their bytes. -/
theorem utf8Bytes_asciiText {bs : Bytes} (h : ∀ b ∈ bs, b < 0x80) :
    utf8Bytes (String.ofList (bs.map asciiChar)) = bs := by
  rw [utf8Bytes_ofList]
  induction bs with
  | nil => rfl
  | cons b bs ih =>
    rw [List.map_cons, List.flatMap_cons, utf8EncodeChar_asciiChar (h b (List.mem_cons_self ..)),
      ih fun c hc => h c (List.mem_cons_of_mem _ hc)]
    rfl

/-- A text of ASCII characters has ASCII bytes. -/
theorem utf8Bytes_lt {s : String} (h : ∀ c ∈ s.toList, c.toNat < 0x80) :
    ∀ b ∈ utf8Bytes s, b < 0x80 := by
  intro b hb
  rw [← String.ofList_toList (s := s), utf8Bytes_ofList] at hb
  obtain ⟨c, hc, hb⟩ := List.mem_flatMap.1 hb
  have hlt := h c hc
  have hbyte : (UInt8.ofNat c.toNat).toNat = c.toNat := by
    rw [UInt8.toNat_ofNat']
    omega
  have hascii : UInt8.ofNat c.toNat < 0x80 := UInt8.lt_iff_toNat_lt.2 (by rw [hbyte]; exact hlt)
  have hchar : asciiChar (UInt8.ofNat c.toNat) = c := by rw [asciiChar, hbyte, Char.ofNat_toNat]
  rw [← hchar, utf8EncodeChar_asciiChar hascii, List.mem_singleton] at hb
  rw [hb]
  exact hascii

end SubtitleCoverage.Text
