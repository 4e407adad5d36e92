import Mathlib
import SubtitleCoverage.Profile.Basic

/-!
# The chain of translators

The chain that counts is tidy whatever is stored: its entries are trimmed, none is empty, and none
comes twice.  A stored chain that is tidy and begins with the primary translator is the one that
counts.  From this follows what each edit does to the chain that counts, refused or not, from any
stored chain.

## Main definitions

* `LanguageProfile.TidyChain` — the chains that are in order.
* `LanguageProfile.primaryHead` — what a primary translator contributes to the head of a chain.
* `LanguageProfile.ChainEdit`, `edit` — the edits of a chain.

## Main results

* `extendChain_append_left` — a chain is continued by what is not in its first part.
* `filter_extendChain` — leaving entries out can be done before or after.
* `tidy_effectiveChain`, `effectiveChain_eq_fallbacks_iff` — **the chain that counts is tidy**, and
  is the one that is stored iff that one is tidy and has the primary translator first.
* `effectiveChain_addFallback`, `effectiveChain_removeFallback`, `effectiveChain_moveFallback`,
  `effectiveChain_setPrimary` — the chain that counts after each edit.
* `frame_edit` — an edit changes nothing but the translators.
-/

namespace SubtitleCoverage

open Text

namespace LanguageProfile

/-! ### Continued chains -/

/-- A chain in order: its entries are trimmed and not empty, and no two of them are the same. -/
structure TidyChain (chain : List String) : Prop where
  trimmed : ∀ b ∈ chain, trim b = b
  ne_empty : ∀ b ∈ chain, b ≠ ""
  nodup : chain.Nodup

theorem TidyChain.sublist {chain chain' : List String} (h : TidyChain chain)
    (hsub : chain'.Sublist chain) : TidyChain chain' where
  trimmed b hb := h.trimmed b (hsub.subset hb)
  ne_empty b hb := h.ne_empty b (hsub.subset hb)
  nodup := h.nodup.sublist hsub

theorem TidyChain.perm {chain chain' : List String} (h : TidyChain chain)
    (hperm : chain'.Perm chain) : TidyChain chain' where
  trimmed b hb := h.trimmed b (hperm.subset hb)
  ne_empty b hb := h.ne_empty b (hperm.subset hb)
  nodup := hperm.nodup_iff.2 h.nodup

/-- A tidy chain can be continued by a translator that is new. -/
theorem TidyChain.concat {chain : List String} (h : TidyChain chain) {t : String}
    (hne : trim t ≠ "") (hnew : trim t ∉ chain) : TidyChain (chain ++ [trim t]) where
  trimmed b hb := by
    rcases List.mem_append.1 hb with hb | hb
    · exact h.trimmed b hb
    · rw [List.mem_singleton.1 hb, trim_trim]
  ne_empty b hb := by
    rcases List.mem_append.1 hb with hb | hb
    · exact h.ne_empty b hb
    · rwa [List.mem_singleton.1 hb]
  nodup := by
    rw [List.nodup_append]
    refine ⟨h.nodup, List.nodup_singleton _, ?_⟩
    intro b hb c hc
    rw [List.mem_singleton.1 hc]
    exact ne_of_mem_of_not_mem hb hnew

theorem extendChain_cons_of_known {chain : List String} {b : String} (bs : List String)
    (h : trim b = "" ∨ trim b ∈ chain) : extendChain chain (b :: bs) = extendChain chain bs :=
  if_pos h

theorem extendChain_cons_of_new {chain : List String} {b : String} (bs : List String)
    (hne : trim b ≠ "") (hnew : trim b ∉ chain) :
    extendChain chain (b :: bs) = extendChain (chain ++ [trim b]) bs :=
  if_neg (not_or.2 ⟨hne, hnew⟩)

/-- Whatever continues a tidy chain, it stays tidy. -/
theorem TidyChain.extendChain {chain : List String} (h : TidyChain chain) (bs : List String) :
    TidyChain (extendChain chain bs) := by
  induction bs generalizing chain with
  | nil => exact h
  | cons b bs ih =>
    by_cases hb : trim b = "" ∨ trim b ∈ chain
    · rw [extendChain_cons_of_known bs hb]
      exact ih h
    · rw [not_or] at hb
      rw [extendChain_cons_of_new bs hb.1 hb.2]
      exact ih (h.concat hb.1 hb.2)

/-- **A chain is continued by what is not in its first part**, as the rest of it would be. -/
theorem extendChain_append_left (first chain bs : List String) :
    extendChain (first ++ chain) bs =
      first ++ extendChain chain (bs.filter fun b => trim b ∉ first) := by
  induction bs generalizing chain with
  | nil => rfl
  | cons b bs ih =>
    by_cases hfirst : trim b ∈ first
    · rw [extendChain_cons_of_known bs (.inr (List.mem_append_left _ hfirst)), ih,
        List.filter_cons_of_neg (by simpa using hfirst)]
    · rw [List.filter_cons_of_pos (by simpa using hfirst)]
      by_cases hb : trim b = "" ∨ trim b ∈ chain
      · rw [extendChain_cons_of_known _ hb, ← ih]
        exact extendChain_cons_of_known bs (hb.imp_right (List.mem_append_right _))
      · rw [not_or] at hb
        rw [extendChain_cons_of_new _ hb.1 hb.2, ← ih, ← List.append_assoc]
        refine extendChain_cons_of_new bs hb.1 fun hmem => ?_
        rcases List.mem_append.1 hmem with hmem | hmem
        · exact hfirst hmem
        · exact hb.2 hmem

/-- A tidy chain continues another one as it is, if all of it is new. -/
theorem extendChain_of_tidy {chain bs : List String} (h : TidyChain (chain ++ bs)) :
    extendChain chain bs = chain ++ bs := by
  induction bs generalizing chain with
  | nil => exact (List.append_nil chain).symm
  | cons b bs ih =>
    have hmem : b ∈ chain ++ b :: bs := List.mem_append_right _ (List.mem_cons_self ..)
    have htrim : trim b = b := h.trimmed b hmem
    have hnew : b ∉ chain := by
      intro hb
      exact (List.nodup_append.1 h.nodup).2.2 b hb b (List.mem_cons_self ..) rfl
    have hshift : chain ++ b :: bs = chain ++ [b] ++ bs := by simp
    rw [extendChain_cons_of_new bs (by rw [htrim]; exact h.ne_empty b hmem) (by rwa [htrim]), htrim,
      ih (by rwa [← hshift]), hshift]

/-- **Entries can be left out before a chain is continued or after.** -/
theorem filter_extendChain (p : String → Bool) (chain bs : List String) :
    (extendChain chain bs).filter p =
      extendChain (chain.filter p) (bs.filter fun b => p (trim b)) := by
  induction bs generalizing chain with
  | nil => rfl
  | cons b bs ih =>
    by_cases hp : p (trim b) = true
    · rw [List.filter_cons_of_pos (p := fun b => p (trim b)) hp]
      by_cases hb : trim b = "" ∨ trim b ∈ chain
      · rw [extendChain_cons_of_known bs hb, ih, extendChain_cons_of_known]
        exact hb.imp_right fun hmem => List.mem_filter.2 ⟨hmem, hp⟩
      · rw [not_or] at hb
        have hnew : trim b ∉ chain.filter p := fun hmem => hb.2 (List.mem_filter.1 hmem).1
        rw [extendChain_cons_of_new bs hb.1 hb.2, ih, extendChain_cons_of_new _ hb.1 hnew,
          List.filter_append, List.filter_singleton, hp]
        rfl
    · rw [List.filter_cons_of_neg (p := fun b => p (trim b)) hp]
      by_cases hb : trim b = "" ∨ trim b ∈ chain
      · rw [extendChain_cons_of_known bs hb, ih]
      · rw [not_or] at hb
        rw [extendChain_cons_of_new bs hb.1 hb.2, ih, List.filter_append,
          List.filter_cons_of_neg hp, List.filter_nil, List.append_nil]

/-! ### The chain that counts -/

/-- What a primary translator contributes to the head of a chain: nothing if its name is empty. -/
def primaryHead (translator : String) : List String := if translator = "" then [] else [translator]

@[simp] theorem mem_primaryHead {translator b : String} :
    b ∈ primaryHead translator ↔ translator ≠ "" ∧ b = translator := by
  unfold primaryHead
  split
  · next h => simp [h]
  · next h => simp [h]

theorem tidy_primaryHead (s : String) : TidyChain (primaryHead (trim s)) where
  trimmed b hb := by rw [(mem_primaryHead.1 hb).2, trim_trim]
  ne_empty b hb := by
    rw [(mem_primaryHead.1 hb).2]
    exact (mem_primaryHead.1 hb).1
  nodup := by
    unfold primaryHead
    split <;> simp

variable (p : LanguageProfile)

/-- The stored chain continues what the primary translator contributes. -/
theorem effectiveChain_eq_extendChain :
    p.effectiveChain = extendChain (primaryHead (trim p.primary)) p.fallbacks := rfl

/-- The primary translator comes first, and then the others as they would come without it. -/
theorem effectiveChain_eq_append :
    p.effectiveChain = primaryHead (trim p.primary) ++
      extendChain [] (p.fallbacks.filter fun b => trim b ∉ primaryHead (trim p.primary)) := by
  rw [← extendChain_append_left, List.append_nil, effectiveChain_eq_extendChain]

/-- The primary translator comes first. -/
theorem primaryHead_prefix_effectiveChain : primaryHead (trim p.primary) <+: p.effectiveChain := by
  rw [effectiveChain_eq_append]
  exact List.prefix_append ..

/-- **The chain that counts is tidy**, whatever is stored. -/
theorem tidy_effectiveChain : TidyChain p.effectiveChain := (tidy_primaryHead _).extendChain _

variable {p}

/-- If the stored chain is tidy, it counts as it is, behind the primary translator. -/
theorem effectiveChain_of_tidy (h : TidyChain p.fallbacks) :
    p.effectiveChain = primaryHead (trim p.primary) ++
      p.fallbacks.filter (· ∉ primaryHead (trim p.primary)) := by
  have hfilter : p.fallbacks.filter (fun b => trim b ∉ primaryHead (trim p.primary)) =
      p.fallbacks.filter (· ∉ primaryHead (trim p.primary)) := by
    refine List.filter_congr fun b hb => ?_
    rw [h.trimmed b hb]
  have htidy := h.sublist (List.filter_sublist (p := (· ∉ primaryHead (trim p.primary))))
  rw [effectiveChain_eq_append, hfilter, extendChain_of_tidy (by simpa using htidy), List.nil_append]

/-- A stored chain that is tidy and begins with the primary translator is the one that counts. -/
theorem effectiveChain_of_prefix (h : TidyChain p.fallbacks)
    (hhead : primaryHead (trim p.primary) <+: p.fallbacks) : p.effectiveChain = p.fallbacks := by
  rw [effectiveChain_of_tidy h]
  obtain ⟨rest, hrest⟩ := hhead
  have hnodup := List.nodup_append.1 (hrest ▸ h.nodup)
  rw [← hrest, List.filter_append]
  -- the head itself is passed over, and the rest of the chain is new
  have hknown : (primaryHead (trim p.primary)).filter (· ∉ primaryHead (trim p.primary)) = [] := by
    simp [List.filter_eq_nil_iff]
  have hnew : rest.filter (· ∉ primaryHead (trim p.primary)) = rest := by
    rw [List.filter_eq_self]
    intro b hb
    rw [decide_eq_true_eq]
    exact fun hmem => hnodup.2.2 b hmem b hb rfl
  rw [hknown, hnew, List.nil_append]

/-- The stored chain is the one that counts iff it is in order. -/
theorem effectiveChain_eq_fallbacks_iff :
    p.effectiveChain = p.fallbacks ↔
      TidyChain p.fallbacks ∧ primaryHead (trim p.primary) <+: p.fallbacks := by
  constructor
  · intro h
    rw [← h]
    exact ⟨p.tidy_effectiveChain, p.primaryHead_prefix_effectiveChain⟩
  · rintro ⟨htidy, hhead⟩
    exact effectiveChain_of_prefix htidy hhead

variable (p)

/-- Any tidy chain that begins with the primary translator counts as soon as it is stored. -/
theorem effectiveChain_store {chain : List String} (h : TidyChain chain)
    (hhead : primaryHead (trim p.primary) <+: chain) :
    effectiveChain { p with fallbacks := chain } = chain :=
  effectiveChain_of_prefix (p := { p with fallbacks := chain }) h hhead

/-- Storing the chain that counts does not change it. -/
theorem effectiveChain_tidied : p.tidied.effectiveChain = p.effectiveChain :=
  p.effectiveChain_store p.tidy_effectiveChain p.primaryHead_prefix_effectiveChain

/-- The chain that counts is its head followed by its other entries. -/
theorem effectiveChain_eq_head_append :
    p.effectiveChain = primaryHead (trim p.primary) ++
      p.effectiveChain.filter (· ∉ primaryHead (trim p.primary)) :=
  (p.effectiveChain_tidied).symm.trans
    (effectiveChain_of_tidy (p := p.tidied) p.tidy_effectiveChain)

/-- If there is a primary translator, it is the first entry of the chain. -/
theorem head?_effectiveChain (h : trim p.primary ≠ "") :
    p.effectiveChain.head? = some (trim p.primary) := by
  rw [effectiveChain_eq_append, primaryHead, if_neg h]
  rfl

/-! ### Moved entries -/

section

variable {source target : Nat}

theorem moveEntry_of_lt {xs : List String} (h : source < xs.length) :
    moveEntry xs source target = (xs.eraseIdx source).insertIdx target xs[source] := by
  rw [moveEntry, List.getElem?_eq_getElem h]

/-- Moving an entry keeps all of them. -/
theorem moveEntry_perm {xs : List String} (hsource : source < xs.length)
    (htarget : target < xs.length) : (moveEntry xs source target).Perm xs := by
  have hlength : target ≤ (xs.eraseIdx source).length := by
    rw [List.length_eraseIdx_of_lt hsource]
    omega
  rw [moveEntry_of_lt hsource]
  exact (List.perm_insertIdx _ _ hlength).trans (List.getElem_cons_eraseIdx_perm hsource)

/-- A move behind the first entry leaves it where it is. -/
theorem moveEntry_cons_succ (x : String) (xs : List String) :
    moveEntry (x :: xs) (source + 1) (target + 1) = x :: moveEntry xs source target := by
  unfold moveEntry
  rw [List.getElem?_cons_succ]
  cases xs[source]? <;> simp

/-- A move that leaves the place of the primary translator alone leaves it first. -/
theorem primaryHead_prefix_moveEntry {translator : String} {xs : List String}
    (h : primaryHead translator <+: xs)
    (hplace : translator ≠ "" → source ≠ 0 ∧ target ≠ 0) :
    primaryHead translator <+: moveEntry xs source target := by
  by_cases hempty : translator = ""
  · simp [primaryHead, hempty]
  · obtain ⟨hsource, htarget⟩ := hplace hempty
    obtain ⟨source, rfl⟩ := Nat.exists_eq_succ_of_ne_zero hsource
    obtain ⟨target, rfl⟩ := Nat.exists_eq_succ_of_ne_zero htarget
    obtain ⟨rest, rfl⟩ := h
    rw [primaryHead, if_neg hempty, List.singleton_append, moveEntry_cons_succ]
    exact ⟨_, rfl⟩

end

/-! ### Edits -/

/-- An edit of the chain. -/
inductive ChainEdit where
  | setPrimary (translator : String)
  | add (translator : String)
  | remove (translator : String)
  | move (source target : Nat)
deriving DecidableEq, Repr

/-- What an edit comes to.  A primary translator is never refused. -/
def edit : ChainEdit → Edited
  | .setPrimary translator => ⟨p.setPrimary translator, none⟩
  | .add translator => p.addFallback translator
  | .remove translator => p.removeFallback translator
  | .move source target => p.moveFallback source target

/-- An edit changes nothing but the stored chain, and the primary translator if it sets one. -/
theorem exists_profile_edit (e : ChainEdit) :
    ∃ fallbacks, (p.edit e).profile = match e with
      | .setPrimary t => { p with primary := trim t, fallbacks }
      | _ => { p with fallbacks } := by
  cases e with
  | setPrimary t => exact ⟨_, rfl⟩
  | add t =>
    simp only [edit, addFallback]
    split
    · exact ⟨_, rfl⟩
    · split <;> exact ⟨_, rfl⟩
  | remove t =>
    simp only [edit, removeFallback]
    split <;> exact ⟨_, rfl⟩
  | move source target =>
    simp only [edit, moveFallback]
    split
    · exact ⟨_, rfl⟩
    · split <;> exact ⟨_, rfl⟩

/-- The primary translator after an edit. -/
theorem primary_edit (e : ChainEdit) :
    (p.edit e).profile.primary = match e with
      | .setPrimary t => trim t
      | _ => p.primary := by
  obtain ⟨fallbacks, h⟩ := p.exists_profile_edit e
  rw [h]
  cases e <;> rfl

/-- An edit changes nothing but the translators. -/
theorem frame_edit (e : ChainEdit) :
    (p.edit e).profile =
      { p with primary := (p.edit e).profile.primary, fallbacks := (p.edit e).profile.fallbacks } := by
  obtain ⟨fallbacks, h⟩ := p.exists_profile_edit e
  rw [h]
  cases e <;> rfl

/-- The chain that counts after a translator was added. -/
theorem effectiveChain_addFallback (t : String) :
    (p.addFallback t).profile.effectiveChain =
      if trim t = "" ∨ trim t ∈ p.effectiveChain then p.effectiveChain
      else p.effectiveChain ++ [trim t] := by
  unfold addFallback
  by_cases hempty : trim t = ""
  · simp [hempty]
  · by_cases hmem : trim t ∈ p.effectiveChain
    · simp [hempty, hmem, effectiveChain_tidied]
    · simp only [hempty, hmem, or_self, if_false]
      exact p.effectiveChain_store (p.tidy_effectiveChain.concat hempty hmem)
        (p.primaryHead_prefix_effectiveChain.trans (List.prefix_append ..))

/-- Leaving the primary translator out of the stored chain does not take it out of the chain that
counts; any other translator is taken out. -/
theorem effectiveChain_without (t : String) :
    effectiveChain { p with fallbacks := p.effectiveChain.filter (· ≠ t) } =
      if trim p.primary ≠ "" ∧ t = trim p.primary then p.effectiveChain
      else p.effectiveChain.filter (· ≠ t) := by
  have htidy : TidyChain (p.effectiveChain.filter (· ≠ t)) :=
    p.tidy_effectiveChain.sublist List.filter_sublist
  by_cases hmem : t ∈ primaryHead (trim p.primary)
  · rw [if_pos (mem_primaryHead.1 hmem)]
    -- the head of the chain is passed over in any case, and comes from the primary translator
    rw [effectiveChain_of_tidy (p := { p with fallbacks := p.effectiveChain.filter (· ≠ t) }) htidy,
      List.filter_filter]
    refine Eq.trans (congrArg _ (List.filter_congr fun b _ => ?_)) p.effectiveChain_eq_head_append.symm
    show (decide (b ∉ primaryHead (trim p.primary)) && decide (b ≠ t)) = _
    by_cases hb : b ∈ primaryHead (trim p.primary)
    · simp only [hb, not_true, decide_false, Bool.false_and]
    · simp only [hb, (ne_of_mem_of_not_mem hmem hb).symm, not_false_iff, ne_eq, decide_true,
        Bool.and_self]
  · rw [if_neg fun h => hmem (mem_primaryHead.2 h)]
    refine p.effectiveChain_store htidy ?_
    have hhead : (primaryHead (trim p.primary)).filter (· ≠ t) = primaryHead (trim p.primary) := by
      rw [List.filter_eq_self]
      intro b hb
      simpa using ne_of_mem_of_not_mem hb hmem
    rw [← hhead]
    exact p.primaryHead_prefix_effectiveChain.filter _

/-- **The chain that counts after a translator was removed.**  The primary one stays, refused or
not. -/
theorem effectiveChain_removeFallback (t : String) :
    (p.removeFallback t).profile.effectiveChain =
      if trim p.primary ≠ "" ∧ trim t = trim p.primary then p.effectiveChain
      else p.effectiveChain.filter (· ≠ trim t) := by
  unfold removeFallback
  by_cases h : p.primary ≠ "" ∧ trim t = p.primary
  · have hprimary : trim p.primary = p.primary := by rw [← h.2, trim_trim]
    rw [if_pos h, hprimary, if_pos h]
  · rw [if_neg h]
    exact p.effectiveChain_without (trim t)

section

variable {p} {source target : Nat}

theorem moveFallback_of_le
    (h : p.effectiveChain.length ≤ source ∨ p.effectiveChain.length ≤ target) :
    p.moveFallback source target = ⟨p.tidied, some (.chainIndex p.effectiveChain.length)⟩ :=
  if_pos h

theorem moveFallback_of_pinned (hsource : source < p.effectiveChain.length)
    (htarget : target < p.effectiveChain.length)
    (h : p.primary ≠ "" ∧ (source = 0 ∨ target = 0)) :
    p.moveFallback source target = ⟨p.tidied, some .primaryMoved⟩ := by
  rw [moveFallback, if_neg (by omega), if_pos h]

theorem moveFallback_of_free (hsource : source < p.effectiveChain.length)
    (htarget : target < p.effectiveChain.length)
    (h : ¬(p.primary ≠ "" ∧ (source = 0 ∨ target = 0))) :
    p.moveFallback source target =
      ⟨{ p with fallbacks := moveEntry p.effectiveChain source target }, none⟩ := by
  rw [moveFallback, if_neg (by omega), if_neg h]

/-- **The chain that counts after an entry was moved.** -/
theorem effectiveChain_moveFallback (hsource : source < p.effectiveChain.length)
    (htarget : target < p.effectiveChain.length)
    (h : ¬(p.primary ≠ "" ∧ (source = 0 ∨ target = 0))) :
    (p.moveFallback source target).profile.effectiveChain =
      moveEntry p.effectiveChain source target := by
  rw [moveFallback_of_free hsource htarget h]
  refine p.effectiveChain_store (p.tidy_effectiveChain.perm (moveEntry_perm hsource htarget))
    (primaryHead_prefix_moveEntry p.primaryHead_prefix_effectiveChain fun hne => ?_)
  -- a primary translator that counts is stored as one
  have hprimary : p.primary ≠ "" := by
    intro hempty
    rw [hempty] at hne
    exact hne rfl
  rw [not_and, not_or] at h
  exact h hprimary

end

/-- The stored chain after a primary translator was set. -/
theorem fallbacks_setPrimary (t : String) :
    (p.setPrimary t).fallbacks =
      primaryHead (trim t) ++ p.fallbacks.filter fun b => b ≠ p.primary ∧ b ≠ trim t := by
  simp only [setPrimary, primaryHead]
  split <;> rfl

section

variable {p} (hprimary : trim p.primary = p.primary) (hfallbacks : ∀ b ∈ p.fallbacks, trim b = b)
include hprimary hfallbacks

/-- Without the primary translator, what is stored counts alone, if nothing is stored with blanks
around it. -/
theorem filter_effectiveChain (t : String) :
    p.effectiveChain.filter (fun b => b ≠ p.primary ∧ b ≠ t) =
      extendChain [] (p.fallbacks.filter fun b => b ≠ p.primary ∧ b ≠ t) := by
  have hhead : (primaryHead (trim p.primary)).filter (fun b => b ≠ p.primary ∧ b ≠ t) = [] := by
    rw [List.filter_eq_nil_iff]
    intro b hb
    rw [hprimary, mem_primaryHead] at hb
    simp [hb.2]
  have hrest : p.fallbacks.filter (fun b => trim b ≠ p.primary ∧ trim b ≠ t) =
      p.fallbacks.filter fun b => b ≠ p.primary ∧ b ≠ t := by
    refine List.filter_congr fun b hb => ?_
    rw [hfallbacks b hb]
  rw [effectiveChain_eq_extendChain, filter_extendChain, hhead, hrest]

/-- The chain that counts after a primary translator was set, if nothing is stored with blanks
around it. -/
theorem effectiveChain_setPrimary (t : String) :
    (p.setPrimary t).effectiveChain =
      primaryHead (trim t) ++ p.effectiveChain.filter fun b => b ≠ p.primary ∧ b ≠ trim t := by
  have htrim : trim (p.setPrimary t).primary = trim t := trim_trim t
  -- the translator itself is passed over where it is stored
  have hhead : (primaryHead (trim t)).filter (fun b => trim b ∉ primaryHead (trim t)) = [] := by
    rw [List.filter_eq_nil_iff]
    intro b hb
    rw [(tidy_primaryHead t).trimmed b hb, decide_eq_true_eq]
    exact fun hnot => hnot hb
  have hothers : (p.fallbacks.filter fun b => b ≠ p.primary ∧ b ≠ trim t).filter
      (fun b => trim b ∉ primaryHead (trim t)) =
        p.fallbacks.filter fun b => b ≠ p.primary ∧ b ≠ trim t := by
    rw [List.filter_eq_self]
    intro b hb
    obtain ⟨hmem, hne⟩ := List.mem_filter.1 hb
    rw [decide_eq_true_eq] at hne ⊢
    rw [hfallbacks b hmem, mem_primaryHead]
    exact fun hb => hne.2 hb.2
  rw [effectiveChain_eq_append, htrim, fallbacks_setPrimary, List.filter_append, hhead, hothers,
    List.nil_append, filter_effectiveChain hprimary hfallbacks]

end

end LanguageProfile

end SubtitleCoverage
