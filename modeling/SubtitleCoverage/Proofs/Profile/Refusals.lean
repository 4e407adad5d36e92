import SubtitleCoverage.Proofs.Profile.Chain

/-!
# Refused edits of the chain

Two things can be expected of an edit that is refused: that it was refused for a reason, and that it
has changed nothing.  Both hold up to what is stored.  The primary translator is recognised by its
name as it is stored, so that one stored with blanks around its name is not protected, and a name
of blanks alone still keeps the first place.  A move stores the chain that counts before it looks at
the places, so that a move which is refused can leave another stored chain behind, though not another
chain that counts.

## Main definitions

* `ChainEdit.storesFirst` — the edits that store the chain that counts even if they are refused.
* `LanguageProfile.ProtectsPrimary` — the primary translator cannot be removed or moved, and all
  others can.

## Main results

* `refused_edit_keeps_chain` — **a refused edit leaves the chain that counts as it is**, and the
  stored one too unless the edit is a move and the stored chain is out of order.
* `primary_protected_as_stored` — **the primary translator is protected iff its name is stored
  without blanks around it**, or nothing is in the chain.
-/

namespace SubtitleCoverage

open Text

namespace LanguageProfile

/-! ### What a refused edit leaves behind -/

/-- The edits that store the chain that counts even if they are refused. -/
def ChainEdit.storesFirst : ChainEdit → Bool
  | .move .. => true
  | _ => false

variable {p : LanguageProfile}

/-- Storing the chain that counts changes nothing iff it is stored already. -/
theorem tidied_eq_self_iff : p.tidied = p ↔ p.effectiveChain = p.fallbacks := by
  constructor
  · intro h
    exact congrArg fallbacks h
  · intro h
    rw [tidied, h]

/-- What is left behind by an edit that is refused. -/
theorem profile_of_refused {e : ChainEdit} {r : Refusal} (h : (p.edit e).refusal = some r) :
    (p.edit e).profile = if e.storesFirst then p.tidied else p := by
  cases e with
  | setPrimary t => cases h
  | add t =>
    simp only [edit, addFallback] at h ⊢
    split at h
    · next hempty => simp [hempty, ChainEdit.storesFirst]
    · split at h <;> cases h
  | remove t =>
    simp only [edit, removeFallback] at h ⊢
    split at h
    · next hprimary => simp [hprimary, ChainEdit.storesFirst]
    · cases h
  | move source target =>
    simp only [edit, moveFallback] at h ⊢
    split at h
    · next hrange => simp [hrange, ChainEdit.storesFirst]
    · next hrange =>
      split at h
      · next hpinned => simp [hrange, hpinned, ChainEdit.storesFirst]
      · cases h

/-- **A refused edit leaves the chain that counts as it is**, and everything else but the stored
chain.  The profile is the same as before unless the edit is a move and the stored chain is out of
order: then it is stored as it counts. -/
theorem refused_edit_keeps_chain {e : ChainEdit} {r : Refusal}
    (h : (p.edit e).refusal = some r) :
    (p.edit e).profile = (if e.storesFirst then p.tidied else p) ∧
    (p.edit e).profile.effectiveChain = p.effectiveChain ∧
    ((p.edit e).profile = p ↔
      e.storesFirst = false ∨
        TidyChain p.fallbacks ∧ primaryHead (trim p.primary) <+: p.fallbacks) := by
  have hprofile := profile_of_refused h
  refine ⟨hprofile, ?_, ?_⟩
  · rw [hprofile]
    split
    · exact p.effectiveChain_tidied
    · rfl
  · rw [hprofile, ← effectiveChain_eq_fallbacks_iff]
    cases e.storesFirst with
    | true => simp [tidied_eq_self_iff]
    | false => simp

/-- The primary translator stands in the middle of the stored chain, and is not removed. -/
theorem refused_edit_keeps_chain_of_untidy :
    let p : LanguageProfile :=
      { id := ⟨1⟩, sourceLanguage := "en", targetLanguages := ["de"], primary := "deepl",
        fallbacks := ["google", "deepl", "google"] }
    (p.edit (.remove " deepl")).refusal = some (.primaryRemoved "deepl") ∧
      (p.edit (.remove " deepl")).profile = p := by
  intro p
  have h : (p.edit (.remove " deepl")).refusal = some (.primaryRemoved "deepl") := by decide +kernel
  exact ⟨h, (refused_edit_keeps_chain h).2.2.2 (.inl rfl)⟩

/-- A place out of range is asked for, and the primary translator is stored all the same. -/
theorem refused_move_stores_chain :
    let p : LanguageProfile :=
      { id := ⟨1⟩, sourceLanguage := "en", targetLanguages := ["de"], primary := "deepl",
        fallbacks := ["google"] }
    (p.moveFallback 5 1).refusal = some (.chainIndex 2) ∧
      (p.moveFallback 5 1).profile = { p with fallbacks := ["deepl", "google"] } ∧
      (p.moveFallback 5 1).profile ≠ p := by
  decide +kernel

/-! ### The primary translator -/

variable (p)

/-- The primary translator cannot be removed, nor can anything be moved to or from its place; every
other translator can be removed, and every other entry can be moved. -/
structure ProtectsPrimary : Prop where
  remove : ∀ t, (p.removeFallback t).refusal.isSome ↔
    trim p.primary ≠ "" ∧ trim t = trim p.primary
  removed : ∀ t, (p.removeFallback t).refusal = none →
    trim t ∉ (p.removeFallback t).profile.effectiveChain
  move : ∀ source target, source < p.effectiveChain.length → target < p.effectiveChain.length →
    ((p.moveFallback source target).refusal.isSome ↔
      trim p.primary ≠ "" ∧ (source = 0 ∨ target = 0))

/-- A removal is refused only of a primary translator that is stored without blanks around it. -/
theorem isSome_refusal_removeFallback (t : String) :
    (p.removeFallback t).refusal.isSome ↔
      trim p.primary = p.primary ∧ trim p.primary ≠ "" ∧ trim t = trim p.primary := by
  by_cases h : p.primary ≠ "" ∧ trim t = p.primary
  · have htrim : trim p.primary = p.primary := by rw [← h.2, trim_trim]
    rw [htrim, removeFallback, if_pos h]
    exact iff_of_true rfl ⟨rfl, h⟩
  · rw [removeFallback, if_neg h]
    refine iff_of_false (by simp) ?_
    rintro ⟨htrim, hprimary⟩
    rw [htrim] at hprimary
    exact h hprimary

/-- A move within the chain is refused iff a primary translator is stored, be it of blanks alone,
and the first place is involved. -/
theorem isSome_refusal_moveFallback {source target : Nat} (hsource : source < p.effectiveChain.length)
    (htarget : target < p.effectiveChain.length) :
    (p.moveFallback source target).refusal.isSome ↔ p.primary ≠ "" ∧ (source = 0 ∨ target = 0) := by
  by_cases h : p.primary ≠ "" ∧ (source = 0 ∨ target = 0)
  · rw [moveFallback_of_pinned hsource htarget h]
    exact iff_of_true rfl h
  · rw [moveFallback_of_free hsource htarget h]
    exact iff_of_false (by simp) h

/-- A primary translator that is stored without blanks around it is protected. -/
theorem protectsPrimary_of_trimmed (h : trim p.primary = p.primary) : p.ProtectsPrimary where
  remove t := by
    rw [isSome_refusal_removeFallback]
    exact and_iff_right h
  removed t hnone := by
    have hrefused := p.isSome_refusal_removeFallback t
    rw [hnone, and_iff_right h] at hrefused
    rw [effectiveChain_removeFallback, if_neg (by simpa using hrefused.not)]
    simp
  move source target hsource htarget := by
    rw [isSome_refusal_moveFallback p hsource htarget, h]

/-- Where nothing is in the chain, there is nothing to protect. -/
theorem protectsPrimary_of_nil (h : p.effectiveChain = []) : p.ProtectsPrimary := by
  have hempty : trim p.primary = "" := by
    by_contra hne
    have hhead := p.head?_effectiveChain hne
    rw [h] at hhead
    cases hhead
  refine ⟨fun t => ?_, fun t _ => ?_, fun source target hsource => ?_⟩
  · rw [isSome_refusal_removeFallback, hempty]
    simp
  · rw [effectiveChain_removeFallback, h]
    simp
  · rw [h] at hsource
    cases hsource

/-- **The primary translator is protected iff its name is stored without blanks around it**, or
nothing is in the chain.  It is the first entry of the chain that counts; whoever removes it leaves
that chain as it is, refused or not, and whoever removes another one takes that one out. -/
theorem primary_protected_as_stored :
    (p.ProtectsPrimary ↔ trim p.primary = p.primary ∨ p.effectiveChain = []) ∧
    (trim p.primary ≠ "" → p.effectiveChain.head? = some (trim p.primary)) ∧
    (∀ t, ((p.removeFallback t).refusal.isSome ↔
        trim p.primary = p.primary ∧ trim p.primary ≠ "" ∧ trim t = trim p.primary) ∧
      (p.removeFallback t).profile.effectiveChain =
        if trim p.primary ≠ "" ∧ trim t = trim p.primary then p.effectiveChain
        else p.effectiveChain.filter (· ≠ trim t)) ∧
    ∀ source target, source < p.effectiveChain.length → target < p.effectiveChain.length →
      ((p.moveFallback source target).refusal.isSome ↔
        p.primary ≠ "" ∧ (source = 0 ∨ target = 0)) := by
  refine ⟨⟨fun h => ?_, ?_⟩, p.head?_effectiveChain,
    fun t => ⟨p.isSome_refusal_removeFallback t, p.effectiveChain_removeFallback t⟩,
    fun source target => p.isSome_refusal_moveFallback⟩
  · by_cases hempty : trim p.primary = ""
    · -- a name of blanks alone keeps the first place, if there is one
      by_cases hchain : p.effectiveChain = []
      · exact .inr hchain
      · have hlength : 0 < p.effectiveChain.length := List.length_pos_iff.2 hchain
        have hmove := h.move 0 0 hlength hlength
        rw [isSome_refusal_moveFallback p hlength hlength] at hmove
        have hprimary : p.primary = "" := by
          by_contra hne
          exact (hmove.1 ⟨hne, .inl rfl⟩).1 hempty
        exact .inl (hempty.trans hprimary.symm)
    · -- the primary translator itself is asked to be removed
      have hremove := (h.remove p.primary).2 ⟨hempty, rfl⟩
      exact .inl ((p.isSome_refusal_removeFallback p.primary).1 hremove).1
  · rintro (htrim | hchain)
    · exact p.protectsPrimary_of_trimmed htrim
    · exact p.protectsPrimary_of_nil hchain

/-- A primary translator that is stored with blanks around its name is removed without complaint,
and a name of blanks alone keeps the first of two entries from being moved. -/
theorem primary_not_protected_between_blanks :
    let p : LanguageProfile :=
      { id := ⟨1⟩, sourceLanguage := "en", targetLanguages := ["de"], primary := " deepl ",
        fallbacks := ["google"] }
    let q : LanguageProfile := { p with primary := " ", fallbacks := ["google", "libre"] }
    (p.removeFallback "deepl").refusal = none ∧
      (p.removeFallback "deepl").profile.effectiveChain = ["deepl", "google"] ∧
      ¬p.ProtectsPrimary ∧
      q.effectiveChain = ["google", "libre"] ∧
      (q.moveFallback 0 1).refusal = some .primaryMoved ∧ ¬q.ProtectsPrimary := by
  intro p q
  refine ⟨by decide +kernel, by decide +kernel, fun h => ?_, by decide +kernel, by decide +kernel,
    fun h => ?_⟩
  · have hremove := (h.remove "deepl").2 (by decide +kernel)
    revert hremove
    decide +kernel
  · have hmove := (h.move 0 1 (by decide +kernel) (by decide +kernel)).1 (by decide +kernel)
    revert hmove
    decide +kernel

end LanguageProfile

end SubtitleCoverage
