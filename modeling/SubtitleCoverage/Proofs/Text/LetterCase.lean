import Mathlib
import SubtitleCoverage.Text.Blank
import SubtitleCoverage.Text.LetterCase

/-!
# Lower case of a part of a text

The lower case of a text is found character by character, but for the capital sigma, whose lower case
depends on the letters around it.  So blanks around a text and the case of its ASCII letters do not
matter, and what is in lower case stays as it is, while a part of a text has the lower case that it has
in the text only if its sigmas end words where they do in the text.

## Main definitions

* `lowerAt`, `lowerWithin` — the lower case of a character, and of some characters within a text.
* `IsLower` — a character is in lower case.
* `sigmaEnds` — which capital sigmas of some characters end a word.
* `KeepsSigmas front part back` — the sigmas of a part end words on their own where they do in the text.

## Main results

* `isBlank_of_mem_lowerChar` — lower case makes no character blank, and no blank anything else.
* `lower_trim` — **a text can be trimmed before or after it is put in lower case.**
* `lowerChars_congr` — **the case of ASCII letters does not matter to the lower case.**
* `lower_lower` — **the lower case of a text is its own lower case.**
* `keepsSigmas_of_not_mem`, `keepsSigmas_of_words` — parts without sigmas and whole words keep theirs.
* `lowerChars_isInfix` — **the lower case of a part is a part of the lower case**, if the part keeps its
  sigmas.
-/

namespace SubtitleCoverage.Text

/-! ### Blanks in lower case -/

/-- The code points of the blank characters. -/
def blankCodes : List Nat :=
  [0x9, 0xA, 0xB, 0xC, 0xD, 0x20, 0x85, 0xA0, 0x1680, 0x2000, 0x2001, 0x2002, 0x2003, 0x2004, 0x2005,
    0x2006, 0x2007, 0x2008, 0x2009, 0x200A, 0x2028, 0x2029, 0x202F, 0x205F, 0x3000]

theorem isBlank_iff_mem (c : Char) : isBlank c = true ↔ c.toNat ∈ blankCodes := by
  -- most blanks lie in two stretches, which give `omega` fewer cases than their members
  have hcodes : blankCodes = List.range' 0x9 5 ++ [0x20, 0x85, 0xA0, 0x1680] ++
      List.range' 0x2000 11 ++ [0x2028, 0x2029, 0x202F, 0x205F, 0x3000] := rfl
  simp only [isBlank, hcodes, Bool.or_eq_true, Bool.and_eq_true, decide_eq_true_eq, beq_iff_eq,
    List.mem_append, List.mem_range'_1, List.mem_cons, List.not_mem_nil, or_false]
  omega

/-- A code point has a partner only if a run covers it. -/
theorem lowerShift_eq (n : Nat) (rs : List CaseRun) :
    lowerShift rs n = 0 ∨ ∃ r ∈ rs, r.covers n = true ∧ lowerShift rs n = r.shift := by
  induction rs with
  | nil => exact .inl rfl
  | cons r rs ih =>
    rw [lowerShift]
    split
    · exact .inl rfl
    · split
      · next hcovers => exact .inr ⟨r, List.mem_cons_self, hcovers, rfl⟩
      · exact ih.imp_right fun ⟨r', hr', h⟩ => ⟨r', List.mem_cons_of_mem _ hr', h⟩

/-- Whether some numbers all lie outside of `lo` to `hi`. -/
def allOutside (lo hi : Nat) (ns : List Nat) : Bool :=
  -- `Nat.blt`, and not a proposition to decide, because the kernel computes it in one step
  ns.all fun n => Nat.blt n lo || Nat.blt hi n

theorem not_between_of_allOutside {lo hi n : Nat} {ns : List Nat} (h : allOutside lo hi ns = true)
    (hn : n ∈ ns) : ¬(lo ≤ n ∧ n ≤ hi) := by
  have hout := List.all_eq_true.1 h n hn
  rw [Bool.or_eq_true, Nat.blt_eq, Nat.blt_eq] at hout
  omega

namespace CaseRun

variable (r : CaseRun)

/-- The partner of the first capital. -/
def firstPartner : Nat := (r.first + r.shift).toNat

/-- The partner of the last capital. -/
def lastPartner : Nat := (r.last + r.shift).toNat

variable {r}

theorem covers_iff {n : Nat} :
    r.covers n = true ↔ (r.first ≤ n ∧ n ≤ r.last) ∧ (n - r.first) % r.stride = 0 := by
  rw [covers, Bool.and_eq_true, Bool.and_eq_true, decide_eq_true_eq, decide_eq_true_eq, beq_iff_eq]

end CaseRun

/-- Every capital has a partner that is a number.  No blank is a capital or the partner of one, and no
partner is the capital I with a dot. -/
theorem lowerRuns_avoid_blanks : ∀ r ∈ lowerRuns, 0 ≤ r.first + r.shift ∧
    allOutside r.first r.last blankCodes = true ∧
    allOutside r.firstPartner r.lastPartner ('İ'.toNat :: blankCodes) = true := by
  decide +kernel

/-- The partner of a capital lies among the partners of its run. -/
theorem partner_between {r : CaseRun} (hr : r ∈ lowerRuns) {n m : Nat} (hn : r.covers n = true)
    (hm : (m : Int) = n + r.shift) : r.firstPartner ≤ m ∧ m ≤ r.lastPartner := by
  obtain ⟨hfirst, hlast⟩ := (CaseRun.covers_iff.1 hn).1
  have hpos := (lowerRuns_avoid_blanks r hr).1
  rw [CaseRun.firstPartner, CaseRun.lastPartner]
  omega

theorem not_isBlank_of_covers {r : CaseRun} (hr : r ∈ lowerRuns) {c : Char}
    (h : r.covers c.toNat = true) : ¬isBlank c = true := by
  rw [isBlank_iff_mem]
  intro hmem
  exact not_between_of_allOutside (lowerRuns_avoid_blanks r hr).2.1 hmem (CaseRun.covers_iff.1 h).1

/-- A number that is no code point stands for the character with number 0. -/
theorem toNat_ofNat_or (n : Nat) : (Char.ofNat n).toNat = n ∨ (Char.ofNat n).toNat = 0 := by
  unfold Char.ofNat
  split
  · exact .inl rfl
  · exact .inr rfl

/-- **Lower case makes no character blank, and no blank anything else.** -/
theorem isBlank_of_mem_lowerChar {c d : Char} (h : d ∈ lowerChar c) : isBlank d = isBlank c := by
  unfold lowerChar at h
  split at h
  · next hc =>
    subst hc
    rcases List.mem_pair.1 h with rfl | rfl
    · decide
    · decide
  · rw [List.mem_singleton] at h
    rcases lowerShift_eq c.toNat lowerRuns with hshift | ⟨r, hr, hcovers, hshift⟩
    · rw [hshift, Int.add_zero, Int.toNat_natCast, Char.ofNat_toNat] at h
      rw [h]
    · -- neither a capital nor its partner is blank
      have hd : ¬isBlank d = true := by
        rw [isBlank_iff_mem]
        intro hmem
        have hpos : 0 < d.toNat := (by decide : ∀ b ∈ blankCodes, 0 < b) _ hmem
        have hpartner : (d.toNat : Int) = c.toNat + r.shift := by
          rw [h, hshift] at hpos ⊢
          rcases toNat_ofNat_or (c.toNat + r.shift).toNat with hn | hn
          · omega
          · omega
        exact not_between_of_allOutside (lowerRuns_avoid_blanks r hr).2.2
          (List.mem_cons_of_mem _ hmem) (partner_between hr hcovers hpartner)
      rw [Bool.eq_false_iff.2 (not_isBlank_of_covers hr hcovers), Bool.eq_false_iff.2 hd]

theorem lowerChar_of_isBlank {c : Char} (h : isBlank c = true) : lowerChar c = [c] := by
  have hne : c ≠ 'İ' := by
    rintro rfl
    revert h
    decide
  have hshift : lowerShift lowerRuns c.toNat = 0 := by
    rcases lowerShift_eq c.toNat lowerRuns with hshift | ⟨r, hr, hcovers, -⟩
    · exact hshift
    · exact absurd h (not_isBlank_of_covers hr hcovers)
  rw [lowerChar, if_neg hne, hshift, Int.add_zero, Int.toNat_natCast, Char.ofNat_toNat]

/-- A blank ends every word: it is not cased, and it is not passed over. -/
theorem casing_of_isBlank {c : Char} (h : isBlank c = true) :
    isCaseIgnorable c = false ∧ isCased c = false := by
  have hcodes : ∀ n ∈ blankCodes,
      inRanges caseIgnorableRanges n = false ∧ inRanges casedRanges n = false := by decide +kernel
  exact hcodes _ ((isBlank_iff_mem c).1 h)

theorem casedAfter_of_isBlank {c : Char} (h : isBlank c = true) (before : Bool) :
    casedAfter before c = false := by
  obtain ⟨hignorable, hcased⟩ := casing_of_isBlank h
  rw [casedAfter, hignorable, if_neg Bool.false_ne_true, hcased]

/-- What begins with no cased letter does not matter to what is before it. -/
theorem startsCased_append {ds : List Char} (h : startsCased ds = false) (cs : List Char) :
    startsCased (cs ++ ds) = startsCased cs := by
  induction cs with
  | nil => exact h
  | cons c cs ih => rw [List.cons_append, startsCased, startsCased, ih]

theorem startsCased_of_blanks {bs : List Char} (h : ∀ b ∈ bs, isBlank b = true) :
    startsCased bs = false := by
  cases bs with
  | nil => rfl
  | cons b bs =>
    obtain ⟨hignorable, hcased⟩ := casing_of_isBlank (h b List.mem_cons_self)
    rw [startsCased, hignorable, if_neg Bool.false_ne_true, hcased]

/-! ### One character after another -/

/-- The lower case of a character with a text after it, where `before` tells whether the nearest
character in front of it that is not passed over is cased. -/
def lowerAt (before : Bool) (c : Char) (after : List Char) : List Char :=
  if c = 'Σ' then [if before && !startsCased after then 'ς' else 'σ'] else lowerChar c

theorem lowerFrom_cons (before : Bool) (c : Char) (cs : List Char) :
    lowerFrom before (c :: cs) = lowerAt before c cs ++ lowerFrom (casedAfter before c) cs := rfl

theorem lowerAt_ne_nil (before : Bool) (c : Char) (after : List Char) :
    lowerAt before c after ≠ [] := by
  unfold lowerAt lowerChar
  split
  · exact List.cons_ne_nil _ _
  · split <;> exact List.cons_ne_nil _ _

theorem isBlank_of_mem_lowerAt {before : Bool} {c d : Char} {after : List Char}
    (h : d ∈ lowerAt before c after) : isBlank d = isBlank c := by
  unfold lowerAt at h
  split at h
  · next hc =>
    subst hc
    rw [List.mem_singleton] at h
    subst h
    split <;> decide
  · exact isBlank_of_mem_lowerChar h

theorem lowerAt_of_isBlank {c : Char} (h : isBlank c = true) (before : Bool) (after : List Char) :
    lowerAt before c after = [c] := by
  have hne : c ≠ 'Σ' := by
    rintro rfl
    revert h
    decide
  rw [lowerAt, if_neg hne, lowerChar_of_isBlank h]

/-- The lower case of some characters with a text after them. -/
def lowerWithin (before : Bool) (after : List Char) : List Char → List Char
  | [] => []
  | c :: cs => lowerAt before c (cs ++ after) ++ lowerWithin (casedAfter before c) after cs

/-- A text is put in lower case part by part. -/
theorem lowerFrom_append (cs ds : List Char) : ∀ before : Bool,
    lowerFrom before (cs ++ ds) =
      lowerWithin before ds cs ++ lowerFrom (cs.foldl casedAfter before) ds := by
  induction cs with
  | nil => intro before; rfl
  | cons c cs ih =>
    intro before
    rw [List.cons_append, lowerFrom_cons, ih, lowerWithin, List.append_assoc, List.foldl_cons]

theorem lowerFrom_eq_lowerWithin (before : Bool) (cs : List Char) :
    lowerFrom before cs = lowerWithin before [] cs := by
  have h := lowerFrom_append cs [] before
  rwa [List.append_nil, lowerFrom_nil, List.append_nil] at h

/-! ### Trimming -/

/-- Blanks around a text are trimmed. -/
theorem trimChars_blanks {front back : List Char} (hfront : ∀ b ∈ front, isBlank b = true)
    (hback : ∀ b ∈ back, isBlank b = true) (cs : List Char) :
    trimChars (front ++ cs ++ back) = trimChars cs := by
  have hend (ds : List Char) : trimEndChars (ds ++ back) = trimEndChars ds := by
    rw [trimEndChars, List.reverse_append, List.dropWhile_append_of_pos, trimEndChars]
    exact fun b hb => hback b (List.mem_reverse.1 hb)
  rw [trimChars, trimStartChars, List.append_assoc, List.dropWhile_append_of_pos hfront,
    List.dropWhile_append]
  split
  · next hnil =>
    -- the text is blank too
    have hblank := hend []
    have hdrop : back.dropWhile isBlank = [] := List.dropWhile_eq_nil_iff.2 hback
    rw [List.isEmpty_iff] at hnil
    rw [trimChars, trimStartChars, hnil, hdrop]
  · exact hend _

/-- What is left of a text when it is trimmed is a part of it. -/
theorem trimChars_isInfix (cs : List Char) : trimChars cs <:+: cs := by
  have hend := trimEndChars_prefix (trimStartChars cs)
  have hstart : trimStartChars cs <:+ cs := List.dropWhile_suffix isBlank
  exact hend.isInfix.trans hstart.isInfix

/-- A text is what is left of it when it is trimmed, with blanks around it. -/
theorem exists_trimChars (cs : List Char) : ∃ front back, cs = front ++ trimChars cs ++ back ∧
    (∀ b ∈ front, isBlank b = true) ∧ ∀ b ∈ back, isBlank b = true := by
  refine ⟨cs.takeWhile isBlank, ((trimStartChars cs).reverse.takeWhile isBlank).reverse, ?_, ?_, ?_⟩
  · rw [List.append_assoc, trimChars, trimEndChars, ← List.reverse_append,
      List.takeWhile_append_dropWhile, List.reverse_reverse, trimStartChars,
      List.takeWhile_append_dropWhile]
  · intro b hb
    exact List.mem_takeWhile_imp hb
  · intro b hb
    exact List.mem_takeWhile_imp (List.mem_reverse.1 hb)

/-- A text with no blank at either end is not trimmed. -/
theorem trimChars_eq_self {cs : List Char} (hhead : ∀ c ∈ cs.head?, isBlank c = false)
    (hlast : ∀ c ∈ cs.getLast?, isBlank c = false) : trimChars cs = cs := by
  rw [← List.head?_reverse] at hlast
  rw [trimChars, trimStartChars_of_head? hhead, trimEndChars]
  exact (congrArg List.reverse (trimStartChars_of_head? hlast)).trans (List.reverse_reverse cs)

theorem lowerFrom_blanks_append {bs : List Char} (h : ∀ b ∈ bs, isBlank b = true) (cs : List Char) :
    lowerFrom false (bs ++ cs) = bs ++ lowerFrom false cs := by
  induction bs with
  | nil => rfl
  | cons b bs ih =>
    have hb := h b List.mem_cons_self
    rw [List.cons_append, lowerFrom_cons, lowerAt_of_isBlank hb, casedAfter_of_isBlank hb,
      ih fun b' hb' => h b' (List.mem_cons_of_mem _ hb')]
    rfl

theorem lowerFrom_append_blanks {bs : List Char} (h : ∀ b ∈ bs, isBlank b = true) (cs : List Char) :
    ∀ before : Bool, lowerFrom before (cs ++ bs) = lowerFrom before cs ++ bs := by
  induction cs with
  | nil =>
    intro before
    cases bs with
    | nil => rfl
    | cons b bs =>
      have hb := h b List.mem_cons_self
      have hbs := lowerFrom_blanks_append (fun b' hb' => h b' (List.mem_cons_of_mem _ hb')) []
      rw [List.append_nil, lowerFrom_nil, List.append_nil] at hbs
      rw [List.nil_append, lowerFrom_cons, lowerAt_of_isBlank hb, casedAfter_of_isBlank hb, hbs]
      rfl
  | cons c cs ih =>
    intro before
    have hlower : lowerAt before c (cs ++ bs) = lowerAt before c cs := by
      rw [lowerAt, lowerAt, startsCased_append (startsCased_of_blanks h)]
    rw [List.cons_append, lowerFrom_cons, hlower, ih, ← List.append_assoc, ← lowerFrom_cons]

/-- A text with no blank at either end has none there in lower case. -/
theorem trimChars_lowerFrom {cs : List Char} (hcs : trimChars cs = cs) (before : Bool) :
    trimChars (lowerFrom before cs) = lowerFrom before cs := by
  have hhead : ∀ c ∈ cs.head?, isBlank c = false := by
    have h := not_isBlank_of_head?_trimStartChars cs
    rwa [← hcs, trimStartChars_trimChars, hcs] at h
  have hlast : ∀ c ∈ cs.getLast?, isBlank c = false := by
    have h := not_isBlank_of_head?_trimStartChars (trimStartChars cs).reverse
    have hend := trimEndChars_trimChars cs
    rw [hcs, trimEndChars, ← List.reverse_inj, List.reverse_reverse] at hend
    rw [← hcs, trimStartChars_trimChars, hcs, trimStartChars, hend, List.head?_reverse] at h
    exact h
  refine trimChars_eq_self ?_ ?_
  · intro d hd
    cases cs with
    | nil => cases hd
    | cons c cs =>
      rw [lowerFrom_cons, List.head?_append_of_ne_nil _ (lowerAt_ne_nil _ _ _)] at hd
      rw [isBlank_of_mem_lowerAt (List.mem_of_mem_head? hd)]
      exact hhead c rfl
  · intro d hd
    rcases List.eq_nil_or_concat cs with rfl | ⟨init, c, rfl⟩
    · cases hd
    · rw [List.concat_eq_append] at hlast hd
      rw [lowerFrom_append, lowerFrom_cons, lowerFrom_nil, List.append_nil,
        List.getLast?_append_of_ne_nil _ (lowerAt_ne_nil _ _ _)] at hd
      rw [isBlank_of_mem_lowerAt (List.mem_of_getLast? hd)]
      exact hlast c List.getLast?_concat

/-- Blanks around a text stay around it. -/
theorem lowerChars_blanks {front back : List Char} (hfront : ∀ b ∈ front, isBlank b = true)
    (hback : ∀ b ∈ back, isBlank b = true) (cs : List Char) :
    lowerChars (front ++ cs ++ back) = front ++ lowerChars cs ++ back := by
  rw [lowerChars, lowerFrom_append_blanks hback, lowerFrom_blanks_append hfront, lowerChars]

/-- **A text can be trimmed before or after it is put in lower case.** -/
theorem lowerChars_trimChars (cs : List Char) :
    lowerChars (trimChars cs) = trimChars (lowerChars cs) := by
  obtain ⟨front, back, hcs, hfront, hback⟩ := exists_trimChars cs
  have htrim : trimChars (trimChars cs) = trimChars cs := by
    have h := congrArg trimChars hcs
    rwa [trimChars_blanks hfront hback, eq_comm] at h
  have h := congrArg (fun ds => trimChars (lowerChars ds)) hcs
  rw [lowerChars_blanks hfront hback, trimChars_blanks hfront hback] at h
  exact (h.trans (trimChars_lowerFrom htrim false)).symm

theorem lower_trim (s : String) : lower (trim s) = trim (lower s) := by
  rw [lower, toList_trim, lowerChars_trimChars, trim, toList_lower]

/-- A text has no blanks around it iff its lower case has none. -/
theorem trim_lower_eq_self_iff (s : String) : trim (lower s) = lower s ↔ trim s = s := by
  constructor
  · intro h
    obtain ⟨front, back, hcs, hfront, hback⟩ := exists_trimChars s.toList
    have hlower := congrArg (fun cs => (lowerChars cs).length) hcs
    simp only [lowerChars_blanks hfront hback, List.length_append] at hlower
    have hlength := congrArg (fun t : String => t.toList.length) h
    simp only [← lower_trim, toList_lower, toList_trim] at hlength
    -- the lower case is as long as that of the text between the blanks, so there are none
    obtain rfl : front = [] := List.eq_nil_of_length_eq_zero (by omega)
    obtain rfl : back = [] := List.eq_nil_of_length_eq_zero (by omega)
    rw [List.nil_append, List.append_nil] at hcs
    rw [trim, ← hcs, String.ofList_toList]
  · intro h
    rw [← lower_trim, h]

/-! ### ASCII letters -/

theorem toLower_eq_self_or (c : Char) : c.toLower = c ∨ c.toNat < 128 := by
  unfold Char.toLower
  split
  · next h => exact .inr (Nat.lt_of_le_of_lt (UInt32.le_iff_toNat_le.1 h.2) (by decide))
  · exact .inl rfl

/-- An ASCII letter is cased like its partner, and has the same lower case. -/
theorem lowerChar_toLower (c : Char) :
    lowerChar c.toLower = lowerChar c ∧ (c.toLower = 'Σ' ↔ c = 'Σ') ∧
      isCaseIgnorable c.toLower = isCaseIgnorable c ∧ isCased c.toLower = isCased c := by
  rcases toLower_eq_self_or c with h | h
  · rw [h]
    exact ⟨rfl, Iff.rfl, rfl, rfl⟩
  · have hascii : ∀ n < 128, lowerChar (Char.ofNat n).toLower = lowerChar (Char.ofNat n) ∧
        ((Char.ofNat n).toLower = 'Σ' ↔ Char.ofNat n = 'Σ') ∧
        isCaseIgnorable (Char.ofNat n).toLower = isCaseIgnorable (Char.ofNat n) ∧
        isCased (Char.ofNat n).toLower = isCased (Char.ofNat n) := by decide
    have hc := hascii c.toNat h
    rwa [Char.ofNat_toNat] at hc

theorem startsCased_map_toLower (cs : List Char) :
    startsCased (cs.map Char.toLower) = startsCased cs := by
  induction cs with
  | nil => rfl
  | cons c cs ih =>
    obtain ⟨-, -, hignorable, hcased⟩ := lowerChar_toLower c
    rw [List.map_cons, startsCased, startsCased, hignorable, hcased, ih]

/-- **The case of ASCII letters does not matter to the lower case.** -/
theorem lowerFrom_map_toLower (cs : List Char) :
    ∀ before : Bool, lowerFrom before (cs.map Char.toLower) = lowerFrom before cs := by
  induction cs with
  | nil => intro before; rfl
  | cons c cs ih =>
    intro before
    obtain ⟨hlower, hsigma, hignorable, hcased⟩ := lowerChar_toLower c
    have hat : lowerAt before c.toLower (cs.map Char.toLower) = lowerAt before c cs := by
      simp only [lowerAt, hsigma, hlower, startsCased_map_toLower]
    have hafter : casedAfter before c.toLower = casedAfter before c := by
      rw [casedAfter, casedAfter, hignorable, hcased]
    rw [List.map_cons, lowerFrom_cons, lowerFrom_cons, hat, hafter, ih]

/-- Two texts that differ by the case of ASCII letters have the same lower case. -/
theorem lowerChars_congr {cs ds : List Char} (h : cs.map Char.toLower = ds.map Char.toLower) :
    lowerChars cs = lowerChars ds := by
  have hlower (es : List Char) : lowerChars (es.map Char.toLower) = lowerChars es :=
    lowerFrom_map_toLower es false
  rw [← hlower cs, h, hlower]

/-! ### Lower case of lower case -/

/-- Whether there are no capitals among the numbers from `lo` to `hi`, or among every other one of
them. -/
def noCapitals (lo hi : Nat) (alternate : Bool) : List CaseRun → Bool
  | [] => true
  | r :: rs =>
    bif Nat.blt r.last lo then noCapitals lo hi alternate rs
    else Nat.blt hi r.first ||
      alternate && r.stride == 2 && (lo + r.first) % 2 == 1 && noCapitals lo hi alternate rs

theorem lowerShift_of_noCapitals {lo hi n : Nat} {alternate : Bool} (hlo : lo ≤ n) (hhi : n ≤ hi)
    (halternate : alternate = true → n % 2 = lo % 2) {rs : List CaseRun}
    (h : noCapitals lo hi alternate rs = true) : lowerShift rs n = 0 := by
  induction rs with
  | nil => rfl
  | cons r rs ih =>
    rw [noCapitals] at h
    rw [lowerShift]
    split
    · rfl
    · next hle =>
      cases hbefore : Nat.blt r.last lo with
      | true =>
        rw [hbefore, cond_true] at h
        rw [Nat.blt_eq] at hbefore
        rw [if_neg, ih h]
        rw [CaseRun.covers_iff]
        omega
      | false =>
        rw [hbefore, cond_false, Bool.or_eq_true, Nat.blt_eq] at h
        rcases h with hbehind | hbetween
        · omega
        · -- the capitals of the run lie between the numbers
          simp only [Bool.and_eq_true, beq_iff_eq] at hbetween
          obtain ⟨⟨⟨hother, htwo⟩, hparity⟩, hrest⟩ := hbetween
          have hn := halternate hother
          rw [if_neg, ih hrest]
          rw [CaseRun.covers_iff, htwo]
          omega

/-- **The partners of capitals are no capitals.** -/
theorem noCapitals_lowerRuns : ∀ r ∈ lowerRuns,
    noCapitals r.firstPartner r.lastPartner (r.stride == 2 || r.first == r.last) lowerRuns = true := by
  decide +kernel

/-- A capital's partner has no partner of its own. -/
theorem lowerShift_partner {r : CaseRun} (hr : r ∈ lowerRuns) {n m : Nat} (hn : r.covers n = true)
    (hm : (m : Int) = n + r.shift) : lowerShift lowerRuns m = 0 := by
  obtain ⟨hlo, hhi⟩ := partner_between hr hn hm
  refine lowerShift_of_noCapitals hlo hhi (fun halternate => ?_) (noCapitals_lowerRuns r hr)
  obtain ⟨hbetween, hstride⟩ := CaseRun.covers_iff.1 hn
  have hpos := (lowerRuns_avoid_blanks r hr).1
  rw [CaseRun.firstPartner] at hlo ⊢
  rw [Bool.or_eq_true, beq_iff_eq, beq_iff_eq] at halternate
  rcases halternate with htwo | hone
  · rw [htwo] at hstride
    omega
  · omega

/-- The code points of what a sigma and the capital I with a dot become, and the number 0. -/
def specialCodes : List Nat := [0x3C3, 0x3C2, 0x69, 0x307, 0]

/-- A sigma is a capital, and what the special capitals become is none. -/
theorem lowerShift_of_special : lowerShift lowerRuns 'Σ'.toNat ≠ 0 ∧
    ∀ n ∈ specialCodes, lowerShift lowerRuns n = 0 := by
  decide

/-- A character is in lower case: it is left as it is, wherever it stands. -/
def IsLower (c : Char) : Prop := c ≠ 'Σ' ∧ lowerChar c = [c]

theorem isLower_of_lowerShift {c : Char} (h : lowerShift lowerRuns c.toNat = 0) (hc : c ≠ 'İ') :
    IsLower c := by
  constructor
  · rintro rfl
    exact lowerShift_of_special.1 h
  · rw [lowerChar, if_neg hc, h, Int.add_zero, Int.toNat_natCast, Char.ofNat_toNat]

theorem isLower_of_special {c : Char} (h : c.toNat ∈ specialCodes) : IsLower c := by
  refine isLower_of_lowerShift (lowerShift_of_special.2 _ h) ?_
  rintro rfl
  revert h
  decide

/-- A small ASCII letter is in lower case. -/
theorem isLower_of_ascii {c : Char} (h : c.isLower = true) : IsLower c := by
  rw [Char.isLower, Bool.and_eq_true, decide_eq_true_eq, decide_eq_true_eq] at h
  have hlo : 0x61 ≤ c.toNat := UInt32.le_iff_toNat_le.1 h.1
  have hhi : c.toNat ≤ 0x7A := UInt32.le_iff_toNat_le.1 h.2
  have hclear : noCapitals 0x61 0x7A false lowerRuns = true := by decide
  refine isLower_of_lowerShift (lowerShift_of_noCapitals hlo hhi ?_ hclear) ?_
  · exact nofun
  · rintro rfl
    contradiction

/-- **What a character becomes in lower case is in lower case.** -/
theorem isLower_of_mem_lowerChar {c d : Char} (h : d ∈ lowerChar c) : IsLower d := by
  unfold lowerChar at h
  split at h
  · rcases List.mem_pair.1 h with rfl | rfl
    · exact isLower_of_special (by decide)
    · exact isLower_of_special (by decide)
  · next hc =>
    rw [List.mem_singleton] at h
    rcases lowerShift_eq c.toNat lowerRuns with hshift | ⟨r, hr, hcovers, hshift⟩
    · rw [hshift, Int.add_zero, Int.toNat_natCast, Char.ofNat_toNat] at h
      rw [h]
      exact isLower_of_lowerShift hshift hc
    · rw [hshift] at h
      rcases toNat_ofNat_or (c.toNat + r.shift).toNat with hd | hd
      · rw [← h] at hd
        have hpos := (lowerRuns_avoid_blanks r hr).1
        obtain ⟨hbetween, -⟩ := CaseRun.covers_iff.1 hcovers
        have hpartner : (d.toNat : Int) = c.toNat + r.shift := by omega
        refine isLower_of_lowerShift (lowerShift_partner hr hcovers hpartner) ?_
        rintro rfl
        exact not_between_of_allOutside (lowerRuns_avoid_blanks r hr).2.2 List.mem_cons_self
          (partner_between hr hcovers hpartner)
      · rw [← h] at hd
        exact isLower_of_special (by rw [hd]; decide)

theorem isLower_of_mem_lowerFrom {d : Char} (cs : List Char) : ∀ {before : Bool},
    d ∈ lowerFrom before cs → IsLower d := by
  induction cs with
  | nil => intro before h; contradiction
  | cons c cs ih =>
    intro before h
    rw [lowerFrom_cons, List.mem_append] at h
    rcases h with h | h
    · rw [lowerAt] at h
      split at h
      · rw [List.mem_singleton] at h
        rw [h]
        split <;> exact isLower_of_special (by decide)
      · exact isLower_of_mem_lowerChar h
    · exact ih h

theorem lowerFrom_of_isLower {cs : List Char} (h : ∀ c ∈ cs, IsLower c) : ∀ before : Bool,
    lowerFrom before cs = cs := by
  induction cs with
  | nil => intro before; rfl
  | cons c cs ih =>
    intro before
    obtain ⟨hsigma, hlower⟩ := h c List.mem_cons_self
    rw [lowerFrom_cons, lowerAt, if_neg hsigma, hlower,
      ih fun d hd => h d (List.mem_cons_of_mem _ hd), List.singleton_append]

theorem lower_eq_self {s : String} (h : s.toList.all Char.isLower = true) : lower s = s := by
  have hlower : lowerChars s.toList = s.toList :=
    lowerFrom_of_isLower (fun c hc => isLower_of_ascii (List.all_eq_true.1 h c hc)) false
  rw [lower, hlower, String.ofList_toList]

/-- **The lower case of a text is its own lower case.** -/
theorem lower_lower (s : String) : lower (lower s) = lower s := by
  have hlower : lowerChars (lowerChars s.toList) = lowerChars s.toList :=
    lowerFrom_of_isLower (fun _ hc => isLower_of_mem_lowerFrom _ hc) false
  rw [lower, toList_lower, hlower, lower]

/-! ### Parts of a text -/

/-- Which capital sigmas of some characters end a word, with a text after them. -/
def sigmaEnds (before : Bool) (after : List Char) : List Char → List Bool
  | [] => []
  | c :: cs =>
    if c = 'Σ' then (before && !startsCased (cs ++ after)) :: sigmaEnds (casedAfter before c) after cs
    else sigmaEnds (casedAfter before c) after cs

/-- The lower case of some characters depends on the text around them only by the sigmas. -/
theorem lowerWithin_congr {after after' : List Char} (cs : List Char) : ∀ {before before' : Bool},
    sigmaEnds before after cs = sigmaEnds before' after' cs →
      lowerWithin before after cs = lowerWithin before' after' cs := by
  induction cs with
  | nil => intro before before' _; rfl
  | cons c cs ih =>
    intro before before' h
    simp only [sigmaEnds] at h
    rw [lowerWithin, lowerWithin]
    split at h
    · next hc =>
      rw [List.cons.injEq] at h
      rw [lowerAt, lowerAt, if_pos hc, if_pos hc, h.1, ih h.2]
    · next hc => rw [lowerAt, lowerAt, if_neg hc, if_neg hc, ih h]

theorem sigmaEnds_of_not_mem {cs : List Char} (h : 'Σ' ∉ cs) :
    ∀ (before : Bool) (after : List Char), sigmaEnds before after cs = [] := by
  induction cs with
  | nil => intro before after; rfl
  | cons c cs ih =>
    intro before after
    rw [List.mem_cons, not_or] at h
    rw [sigmaEnds, if_neg (Ne.symm h.1), ih h.2]

/-- The capital sigmas of a part of a text end a word on their own where they do in the text. -/
def KeepsSigmas (front part back : List Char) : Prop :=
  sigmaEnds (front.foldl casedAfter false) back part = sigmaEnds false [] part

instance (front part back : List Char) : Decidable (KeepsSigmas front part back) :=
  inferInstanceAs (Decidable (_ = _))

/-- Without capital sigmas there is nothing to keep. -/
theorem keepsSigmas_of_not_mem {part : List Char} (h : 'Σ' ∉ part) (front back : List Char) :
    KeepsSigmas front part back := by
  rw [KeepsSigmas, sigmaEnds_of_not_mem h, sigmaEnds_of_not_mem h]

/-- Whole words keep their sigmas. -/
theorem keepsSigmas_of_words {front back : List Char} (hfront : front.foldl casedAfter false = false)
    (hback : startsCased back = false) (part : List Char) : KeepsSigmas front part back := by
  have hends : ∀ before : Bool, sigmaEnds before back part = sigmaEnds before [] part := by
    induction part with
    | nil => intro before; rfl
    | cons c cs ih =>
      intro before
      rw [sigmaEnds, sigmaEnds, ih, startsCased_append hback, List.append_nil]
  rw [KeepsSigmas, hfront, hends]

/-- **The lower case of a part is a part of the lower case**, if the part keeps its sigmas. -/
theorem lowerChars_isInfix {front part back : List Char} (h : KeepsSigmas front part back) :
    lowerChars part <:+: lowerChars (front ++ part ++ back) := by
  have hpart : lowerChars part = lowerWithin (front.foldl casedAfter false) back part := by
    rw [lowerChars, lowerFrom_eq_lowerWithin, lowerWithin_congr part h]
  rw [hpart, lowerChars, List.append_assoc, lowerFrom_append, lowerFrom_append, ← List.append_assoc]
  exact ⟨_, _, rfl⟩

end SubtitleCoverage.Text
