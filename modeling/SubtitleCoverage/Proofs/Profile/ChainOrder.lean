import SubtitleCoverage.Proofs.Profile.Chain

/-!
# The order of the chain of translators

The chain that counts has every translator that is named, the primary one first and the others as they
are named first in the stored chain.  Nothing else has these members in this order, so the loop that
builds the chain is fully described.

## Main definitions

* `LanguageProfile.storedNames` — what is stored, without the blanks around it.
* `LanguageProfile.NamedBefore` — a name comes first in a list before another one.
* `LanguageProfile.IsChain p chain` — a chain has the translators of a profile in their order.

## Main results

* `exists_extendChain_eq` — a chain is continued by what is new, as it is named first.
* `isChain_effectiveChain` — the chain that counts is in order.
* `IsChain.unique` — no other chain is.
* `chain_is_primary_then_stored` — **the chain that counts is the one chain of the profile.**
-/

namespace SubtitleCoverage

open Text

namespace LanguageProfile

/-! ### Continued chains -/

theorem mem_extendChain {b : String} (bs : List String) : ∀ {chain : List String},
    b ∈ extendChain chain bs ↔ b ∈ chain ∨ (b ≠ "" ∧ b ∈ bs.map trim) := by
  induction bs with
  | nil => intro chain; simp [extendChain]
  | cons c bs ih =>
    intro chain
    rw [List.map_cons, List.mem_cons]
    by_cases hc : trim c = "" ∨ trim c ∈ chain
    · rw [extendChain_cons_of_known bs hc, ih]
      -- an entry that is passed over is empty or has been there
      constructor
      · exact fun h => h.imp_right fun ⟨hne, hmem⟩ => ⟨hne, .inr hmem⟩
      · rintro (hmem | ⟨hne, rfl | hmem⟩)
        · exact .inl hmem
        · exact .inl (hc.resolve_left hne)
        · exact .inr ⟨hne, hmem⟩
    · rw [not_or] at hc
      rw [extendChain_cons_of_new bs hc.1 hc.2, ih, List.mem_append, List.mem_singleton]
      constructor
      · rintro ((hmem | rfl) | ⟨hne, hmem⟩)
        · exact .inl hmem
        · exact .inr ⟨hc.1, .inl rfl⟩
        · exact .inr ⟨hne, .inr hmem⟩
      · rintro (hmem | ⟨hne, rfl | hmem⟩)
        · exact .inl (.inl hmem)
        · exact .inl (.inr rfl)
        · exact .inr ⟨hne, hmem⟩

/-- A name comes first in a list before another one. -/
def NamedBefore (names : List String) (b c : String) : Prop := names.idxOf b < names.idxOf c

/-- Names that are not at the head come in the order of the rest. -/
theorem NamedBefore.cons {names : List String} {b c d : String} (h : NamedBefore names b c)
    (hb : d ≠ b) (hc : d ≠ c) : NamedBefore (d :: names) b c := by
  rw [NamedBefore, List.idxOf_cons_ne names hb, List.idxOf_cons_ne names hc]
  exact Nat.succ_lt_succ h

/-- **A chain is continued by what is new**, in the order in which it is named first. -/
theorem exists_extendChain_eq (bs : List String) : ∀ chain : List String,
    ∃ new, extendChain chain bs = chain ++ new ∧ (∀ b ∈ new, b ≠ "" ∧ b ∉ chain) ∧
      new.Pairwise (NamedBefore (bs.map trim)) := by
  induction bs with
  | nil => exact fun chain => ⟨[], (List.append_nil chain).symm, by simp, .nil⟩
  | cons c bs ih =>
    intro chain
    by_cases hc : trim c = "" ∨ trim c ∈ chain
    · obtain ⟨new, heq, hnew, hordered⟩ := ih chain
      refine ⟨new, by rw [extendChain_cons_of_known bs hc, heq], hnew, ?_⟩
      -- the entry that is passed over is none of the new ones
      have hother : ∀ b ∈ new, trim c ≠ b := by
        rintro b hb rfl
        exact hc.elim (hnew _ hb).1 (hnew _ hb).2
      exact hordered.imp_of_mem fun hb hb' h => h.cons (hother _ hb) (hother _ hb')
    · rw [not_or] at hc
      obtain ⟨new, heq, hnew, hordered⟩ := ih (chain ++ [trim c])
      have hother : ∀ b ∈ new, trim c ≠ b := by
        rintro b hb rfl
        exact (hnew _ hb).2 (List.mem_append_right _ (List.mem_singleton_self _))
      refine ⟨trim c :: new, ?_, ?_, List.pairwise_cons.2 ⟨fun b hb => ?_, ?_⟩⟩
      · rw [extendChain_cons_of_new bs hc.1 hc.2, heq, List.append_assoc, List.singleton_append]
      · intro b hb
        rcases List.mem_cons.1 hb with rfl | hb
        · exact hc
        · exact ⟨(hnew b hb).1, fun hmem => (hnew b hb).2 (List.mem_append_left _ hmem)⟩
      · rw [NamedBefore, List.map_cons, List.idxOf_cons_self,
          List.idxOf_cons_ne _ (hother b hb)]
        exact Nat.succ_pos _
      · exact hordered.imp_of_mem fun hb hb' h => h.cons (hother _ hb) (hother _ hb')

/-! ### The chain of a profile -/

/-- The translators that are stored to fall back on, without the blanks around their names. -/
def storedNames (p : LanguageProfile) : List String := p.fallbacks.map trim

/-- A chain has the translators of a profile, in the order in which they are tried. -/
structure IsChain (p : LanguageProfile) (chain : List String) : Prop where
  tidy : TidyChain chain
  mem_iff : ∀ b, b ∈ chain ↔ b ≠ "" ∧ (b = trim p.primary ∨ b ∈ p.storedNames)
  primary_first : trim p.primary ≠ "" → chain.head? = some (trim p.primary)
  others_inOrder : (chain.filter (· ≠ trim p.primary)).Pairwise (NamedBefore p.storedNames)

variable (p : LanguageProfile)

theorem isChain_effectiveChain : p.IsChain p.effectiveChain where
  tidy := p.tidy_effectiveChain
  mem_iff b := by
    rw [effectiveChain_eq_extendChain, mem_extendChain, mem_primaryHead, storedNames]
    constructor
    · rintro (⟨hne, rfl⟩ | ⟨hne, hmem⟩)
      · exact ⟨hne, .inl rfl⟩
      · exact ⟨hne, .inr hmem⟩
    · rintro ⟨hne, rfl | hmem⟩
      · exact .inl ⟨hne, rfl⟩
      · exact .inr ⟨hne, hmem⟩
  primary_first := p.head?_effectiveChain
  others_inOrder := by
    obtain ⟨new, heq, -, hordered⟩ := exists_extendChain_eq p.fallbacks (primaryHead (trim p.primary))
    have hhead : (primaryHead (trim p.primary)).filter (· ≠ trim p.primary) = [] := by
      rw [List.filter_eq_nil_iff]
      intro b hb
      simpa using (mem_primaryHead.1 hb).2
    rw [effectiveChain_eq_extendChain, heq, List.filter_append, hhead, List.nil_append]
    exact hordered.filter _

variable {p}

/-- A chain of the profile is the primary translator, if there is one, followed by the others. -/
theorem IsChain.eq_append {chain : List String} (h : p.IsChain chain) :
    chain = primaryHead (trim p.primary) ++ chain.filter (· ≠ trim p.primary) := by
  by_cases hprimary : trim p.primary = ""
  · rw [primaryHead, if_pos hprimary, List.nil_append, eq_comm, List.filter_eq_self]
    intro b hb
    rw [hprimary]
    exact decide_eq_true (h.tidy.ne_empty b hb)
  · obtain ⟨rest, rfl⟩ := List.head?_eq_some_iff.1 (h.primary_first hprimary)
    have hrest : rest.filter (· ≠ trim p.primary) = rest := by
      rw [List.filter_eq_self]
      intro b hb
      exact decide_eq_true (ne_of_mem_of_not_mem hb (List.nodup_cons.1 h.tidy.nodup).1)
    rw [primaryHead, if_neg hprimary, List.filter_cons_of_neg (by simp), hrest]
    rfl

/-- **A profile has one chain.** -/
theorem IsChain.unique {chain chain' : List String} (h : p.IsChain chain) (h' : p.IsChain chain') :
    chain = chain' := by
  have hperm : chain.Perm chain' :=
    (List.perm_ext_iff_of_nodup h.tidy.nodup h'.tidy.nodup).2 fun b =>
      (h.mem_iff b).trans (h'.mem_iff b).symm
  have hothers : chain.filter (· ≠ trim p.primary) = chain'.filter (· ≠ trim p.primary) := by
    refine (hperm.filter _).eq_of_pairwise ?_ h.others_inOrder h'.others_inOrder
    intro b c _ _ hbc hcb
    exact absurd hbc (Nat.lt_asymm hcb)
  rw [h.eq_append, h'.eq_append, hothers]

/-- **The chain that counts is the one chain of the profile**, whatever is stored.  Its entries are
trimmed, not empty and different from each other; they are the primary translator and those stored, as
far as their names are not blank; the primary one comes first, if there is one, and the others as they
are named first in the stored chain.  Stored and computed again, it is the same. -/
theorem chain_is_primary_then_stored (p : LanguageProfile) :
    p.IsChain p.effectiveChain ∧ (∀ chain, p.IsChain chain → chain = p.effectiveChain) ∧
      effectiveChain { p with fallbacks := p.effectiveChain } = p.effectiveChain :=
  ⟨p.isChain_effectiveChain, fun _ h => h.unique p.isChain_effectiveChain, p.effectiveChain_tidied⟩

/-- Blanks around the primary translator, which is stored again further on. -/
example :
    let p : LanguageProfile :=
      { id := ⟨1⟩, sourceLanguage := "en", targetLanguages := ["de"], primary := " deepl ",
        fallbacks := ["google", "", "libre ", "deepl", " google"] }
    p.effectiveChain = ["deepl", "google", "libre"] := by
  decide +kernel

end LanguageProfile

end SubtitleCoverage
