import SubtitleCoverage.Language
import SubtitleCoverage.Proofs.Text.LetterCase

/-!
# Folding the spellings of a language

Every spelling is folded onto a code, and the codes are fixed: none of them is a three-letter code that is
listed, and each is in lower case.  What is folded is the lower case of a spelling, which may be shorter
or longer than the spelling and may have ASCII letters in the place of others; as it is its own lower
case, nothing comes of folding it again.

## Main definitions

* `Language.DifferInCase a b` — two texts differ by the case of ASCII letters only.

## Main results

* `Language.normalize_cases` — a spelling is folded onto a listed code or onto its lower case.
* `Language.normalize_normalize`, `Language.normalize_ne_of_mem_codes` — **codes are fixed**, and they are
  no three-letter codes of the list.
* `Language.same_iff_of_mem_codes` — the spellings of a listed language.
* `Language.spellings_fold_onto_codes` — **folding is a closed, idempotent map onto codes.**
-/

namespace SubtitleCoverage.Language

open Text

/-! ### The listed codes -/

/-- A three-letter code is three small letters, and a two-letter code is two. -/
theorem letters_of_mem_codes : ∀ e ∈ codes,
    (e.1.toList.length = 3 ∧ e.1.toList.all Char.isLower = true) ∧
      (e.2.toList.length = 2 ∧ e.2.toList.all Char.isLower = true) := by
  decide

/-- The listed codes are in lower case. -/
theorem lower_of_mem_codes {e : String × String} (he : e ∈ codes) :
    lower e.1 = e.1 ∧ lower e.2 = e.2 :=
  ⟨lower_eq_self (letters_of_mem_codes e he).1.2, lower_eq_self (letters_of_mem_codes e he).2.2⟩

/-- Each three-letter code is listed once. -/
theorem lookup_of_mem_codes : ∀ e ∈ codes, codes.lookup e.1 = some e.2 := by
  decide +kernel

/-- No two-letter code is listed as a three-letter one. -/
theorem lookup_two_of_mem_codes {e : String × String} (he : e ∈ codes) :
    codes.lookup e.2 = none := by
  rw [List.lookup_eq_none_iff]
  intro e' he'
  rw [bne_iff_ne]
  intro heq
  have hthree := (letters_of_mem_codes e' he').1.1
  rw [← heq, (letters_of_mem_codes e he).2.1] at hthree
  contradiction

/-- **A spelling is folded onto the code that is listed for its lower case**, or onto its lower case if
there is none. -/
theorem normalize_cases (a : String) :
    (∃ e ∈ codes, e.1 = lower a ∧ normalize a = e.2) ∨
      ((∀ e ∈ codes, e.1 ≠ lower a) ∧ normalize a = lower a) := by
  unfold normalize
  cases hfound : codes.lookup (lower a) with
  | none =>
    refine .inr ⟨fun e he heq => ?_, rfl⟩
    rw [← heq, lookup_of_mem_codes e he] at hfound
    contradiction
  | some two =>
    obtain ⟨before, after, hcodes, -⟩ := List.lookup_eq_some_iff.1 hfound
    have hmem : (lower a, two) ∈ codes := hcodes ▸ List.mem_append_right _ List.mem_cons_self
    exact .inl ⟨_, hmem, rfl, rfl⟩

theorem normalize_of_mem_codes {e : String × String} (he : e ∈ codes) {a : String}
    (h : lower a = e.1) : normalize a = e.2 := by
  rw [normalize, h, lookup_of_mem_codes e he, Option.getD_some]

/-- Spellings with the same lower case are folded onto the same code. -/
theorem normalize_congr {a b : String} (h : lower a = lower b) : normalize a = normalize b := by
  rw [normalize, normalize, h]

/-! ### Codes -/

/-- A two-letter code of the list is folded onto itself. -/
theorem normalize_two_of_mem_codes {e : String × String} (he : e ∈ codes) : normalize e.2 = e.2 := by
  rw [normalize, (lower_of_mem_codes he).2, lookup_two_of_mem_codes he, Option.getD_none]

/-- A code is its own lower case. -/
theorem lower_normalize (a : String) : lower (normalize a) = normalize a := by
  rcases normalize_cases a with ⟨e, he, -, hnormalize⟩ | ⟨-, hnormalize⟩
  · rw [hnormalize, (lower_of_mem_codes he).2]
  · rw [hnormalize, lower_lower]

/-- **Codes are fixed**: a code is folded onto itself. -/
theorem normalize_normalize (a : String) : normalize (normalize a) = normalize a := by
  rcases normalize_cases a with ⟨e, he, -, hnormalize⟩ | ⟨-, hnormalize⟩
  · rw [hnormalize, normalize_two_of_mem_codes he]
  · calc normalize (normalize a)
        = normalize (lower a) := by rw [hnormalize]
      _ = normalize a := normalize_congr (lower_lower a)

/-- No spelling is folded onto a three-letter code of the list. -/
theorem normalize_ne_of_mem_codes {e : String × String} (he : e ∈ codes) (a : String) :
    normalize a ≠ e.1 := by
  rcases normalize_cases a with ⟨e', he', -, hnormalize⟩ | ⟨hnone, hnormalize⟩
  · rw [hnormalize]
    intro heq
    have htwo := lookup_two_of_mem_codes he'
    rw [heq, lookup_of_mem_codes e he] at htwo
    contradiction
  · rw [hnormalize]
    exact (hnone e he).symm

/-! ### Spellings -/

/-- Two texts differ by the case of ASCII letters only. -/
def DifferInCase (a b : String) : Prop := a.toList.map Char.toLower = b.toList.map Char.toLower

theorem DifferInCase.lower_eq {a b : String} (h : DifferInCase a b) : lower a = lower b := by
  rw [lower, lower, lowerChars_congr h]

theorem same_equivalence : Equivalence fun a b => same a b = true where
  refl _ := beq_self_eq_true _
  symm h := beq_iff_eq.2 (beq_iff_eq.1 h).symm
  trans h h' := beq_iff_eq.2 ((beq_iff_eq.1 h).trans (beq_iff_eq.1 h'))

/-- **The spellings of a listed language**: its two-letter code and the three-letter codes that are listed
with it, up to lower case. -/
theorem same_iff_of_mem_codes {e : String × String} (he : e ∈ codes) (a : String) :
    same a e.2 = true ↔ lower a = e.2 ∨ (lower a, e.2) ∈ codes := by
  rw [same, beq_iff_eq, normalize_two_of_mem_codes he]
  constructor
  · intro h
    rcases normalize_cases a with ⟨e', he', hlower, hnormalize⟩ | ⟨-, hnormalize⟩
    · right
      rw [← h, hnormalize, ← hlower]
      exact he'
    · exact .inl (hnormalize.symm.trans h)
  · rintro (hlower | hmem)
    · rw [← normalize_two_of_mem_codes he]
      exact normalize_congr (hlower.trans (lower_of_mem_codes he).2.symm)
    · exact normalize_of_mem_codes hmem rfl

/-- **Folding is a closed, idempotent map onto codes.**  A spelling is folded onto the two-letter code
that is listed for its lower case, or onto its lower case if none is listed.  What it is folded onto is
folded onto itself, is its own lower case, and is no three-letter code of the list.  The case of ASCII
letters makes no difference.  So to name the same language is an equivalence; with a two-letter code of
the list, it holds of the code itself and of the three-letter codes that are listed with it, in any letter
case, and of nothing else. -/
theorem spellings_fold_onto_codes (a : String) :
    (∀ e ∈ codes, lower a = e.1 → normalize a = e.2) ∧
    ((∀ e ∈ codes, lower a ≠ e.1) → normalize a = lower a) ∧
    normalize (normalize a) = normalize a ∧
    lower (normalize a) = normalize a ∧
    (∀ e ∈ codes, normalize a ≠ e.1) ∧
    (∀ b, DifferInCase a b → normalize a = normalize b) ∧
    (Equivalence fun a b => same a b = true) ∧
    (∀ e ∈ codes, same a e.2 = true ↔ lower a = e.2 ∨ (lower a, e.2) ∈ codes) ∧
    ∀ e ∈ codes, DifferInCase a e.1 ∨ DifferInCase a e.2 → same a e.2 = true := by
  refine ⟨fun e he => normalize_of_mem_codes he, fun hnone => ?_, normalize_normalize a,
    lower_normalize a, fun e he => normalize_ne_of_mem_codes he a,
    fun b hab => normalize_congr hab.lower_eq, same_equivalence,
    fun e he => same_iff_of_mem_codes he a, fun e he hcase => ?_⟩
  · rcases normalize_cases a with ⟨e, he, hlower, -⟩ | ⟨-, hnormalize⟩
    · exact absurd hlower.symm (hnone e he)
    · exact hnormalize
  · obtain ⟨hthree, htwo⟩ := lower_of_mem_codes he
    rw [same_iff_of_mem_codes he]
    rcases hcase with hcase | hcase
    · right
      rw [hcase.lower_eq, hthree]
      exact he
    · exact .inl (hcase.lower_eq.trans htwo)

/-- The sign for kelvin is a letter of a code in lower case. -/
example : normalize "\u212Aat" = "ka" ∧ normalize "KAT" = "ka" ∧ normalize "KA" = "ka" := by
  decide +kernel

end SubtitleCoverage.Language
