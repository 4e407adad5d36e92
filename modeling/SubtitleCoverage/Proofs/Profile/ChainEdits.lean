import SubtitleCoverage.Proofs.Profile.Chain

/-!
# Edits of the chain as edits of a list

Whoever edits the translators of a profile sees a primary one and a list.  If no name is stored with
blanks around it, every edit is a plain edit of that list, however untidy the stored chain is, and
every run of edits is a run of plain edits.

## Main definitions

* `Translators`, `LanguageProfile.translators` — what is seen of the translators of a profile.
* `Translators.edit`, `refusal?`, `after` — the plain edits.
* `LanguageProfile.Unpadded` — no name is stored with blanks around it.
* `LanguageProfile.editAll` — some edits, one after the other.

## Main results

* `refusal_edit`, `translators_edit` — one edit is refused and takes effect as the plain one.
* `edits_are_list_edits` — **so does every run of edits**; the list has the primary translator
  first and nothing twice.
-/

namespace SubtitleCoverage

open Text LanguageProfile

/-! ### Plain edits -/

/-- What is seen of the translators of a profile: the primary one, whose name may be empty, and
all of them in the order in which they are tried. -/
structure Translators where
  primary : String
  chain : List String
deriving DecidableEq, Repr

namespace Translators

/-- A plain edit of the list.  Its first place belongs to the primary translator, if there is one. -/
def edit (v : Translators) : ChainEdit → Except Refusal Translators
  | .setPrimary translator =>
    let t := trim translator
    let others := v.chain.filter fun b => b ≠ v.primary ∧ b ≠ t
    .ok ⟨t, if t = "" then others else t :: others⟩
  | .add translator =>
    let t := trim translator
    if t = "" then .error .blankTranslator
    else .ok { v with chain := if t ∈ v.chain then v.chain else v.chain ++ [t] }
  | .remove translator =>
    let t := trim translator
    if v.primary ≠ "" ∧ t = v.primary then .error (.primaryRemoved t)
    else .ok { v with chain := v.chain.filter (· ≠ t) }
  | .move source target =>
    if h : source < v.chain.length ∧ target < v.chain.length then
      if v.primary ≠ "" ∧ (source = 0 ∨ target = 0) then .error .primaryMoved
      else .ok { v with
        chain := (v.chain.eraseIdx source).insertIdx target (v.chain.get ⟨source, h.1⟩) }
    else .error (.chainIndex v.chain.length)

/-- Why a plain edit is refused, if it is. -/
def refusal? (v : Translators) (e : ChainEdit) : Option Refusal :=
  match v.edit e with
  | .ok _ => none
  | .error r => some r

/-- What is seen after a plain edit.  One that is refused leaves the list as it was. -/
def after (v : Translators) (e : ChainEdit) : Translators :=
  match v.edit e with
  | .ok w => w
  | .error _ => v

variable {v w : Translators} {e : ChainEdit}

theorem after_of_ok (h : v.edit e = .ok w) : v.after e = w := by rw [after, h]

theorem after_of_error {r : Refusal} (h : v.edit e = .error r) : v.after e = v := by rw [after, h]

theorem edit_setPrimary (v : Translators) (t : String) :
    v.edit (.setPrimary t) =
      .ok ⟨trim t, primaryHead (trim t) ++ v.chain.filter fun b => b ≠ v.primary ∧ b ≠ trim t⟩ := by
  simp only [edit, primaryHead]
  split <;> rfl

theorem edit_move_of_le {source target : Nat}
    (h : v.chain.length ≤ source ∨ v.chain.length ≤ target) :
    v.edit (.move source target) = .error (.chainIndex v.chain.length) :=
  dif_neg (by omega)

theorem edit_move_of_pinned {source target : Nat} (hsource : source < v.chain.length)
    (htarget : target < v.chain.length) (h : v.primary ≠ "" ∧ (source = 0 ∨ target = 0)) :
    v.edit (.move source target) = .error .primaryMoved := by
  rw [edit, dif_pos ⟨hsource, htarget⟩, if_pos h]

theorem edit_move_of_free {source target : Nat} (hsource : source < v.chain.length)
    (htarget : target < v.chain.length) (h : ¬(v.primary ≠ "" ∧ (source = 0 ∨ target = 0))) :
    v.edit (.move source target) =
      .ok { v with chain := (v.chain.eraseIdx source).insertIdx target v.chain[source] } := by
  rw [edit, dif_pos ⟨hsource, htarget⟩, if_neg h]
  rfl

/-- A move has a place outside the list, or moves the primary translator, or neither. -/
theorem move_cases (v : Translators) (source target : Nat) :
    (v.chain.length ≤ source ∨ v.chain.length ≤ target) ∨
      ∃ (_ : source < v.chain.length) (_ : target < v.chain.length),
        (v.primary ≠ "" ∧ (source = 0 ∨ target = 0)) ∨
          ¬(v.primary ≠ "" ∧ (source = 0 ∨ target = 0)) := by
  by_cases hrange : source < v.chain.length ∧ target < v.chain.length
  · exact .inr ⟨hrange.1, hrange.2, em _⟩
  · exact .inl (by omega)

end Translators

namespace LanguageProfile

/-- What is seen of the translators of a profile. -/
def translators (p : LanguageProfile) : Translators := ⟨p.primary, p.effectiveChain⟩

/-- No translator is stored with blanks around its name. -/
structure Unpadded (p : LanguageProfile) : Prop where
  primary : trim p.primary = p.primary
  fallbacks : ∀ b ∈ p.fallbacks, trim b = b

/-- The profile after some edits. -/
def editAll (p : LanguageProfile) (edits : List ChainEdit) : LanguageProfile :=
  edits.foldl (fun q e => (q.edit e).profile) p

/-! ### One edit -/

/-- **An edit is refused as the plain one**, and for the same reason. -/
theorem refusal_edit (p : LanguageProfile) (e : ChainEdit) :
    (p.edit e).refusal = p.translators.refusal? e := by
  cases e with
  | setPrimary t => rfl
  | add t =>
    by_cases hempty : trim t = ""
    · simp [edit, addFallback, Translators.refusal?, Translators.edit, hempty]
    · by_cases hmem : trim t ∈ p.effectiveChain <;>
        simp [edit, addFallback, Translators.refusal?, Translators.edit, hempty, hmem]
  | remove t =>
    by_cases h : p.primary ≠ "" ∧ trim t = p.primary <;>
      simp [edit, removeFallback, Translators.refusal?, Translators.edit, translators, h]
  | move source target =>
    rcases p.translators.move_cases source target with hle | ⟨hsource, htarget, h | h⟩
    · rw [edit, moveFallback_of_le hle, Translators.refusal?, Translators.edit_move_of_le hle]
      rfl
    · rw [edit, moveFallback_of_pinned hsource htarget h, Translators.refusal?,
        Translators.edit_move_of_pinned hsource htarget h]
    · rw [edit, moveFallback_of_free hsource htarget h, Translators.refusal?,
        Translators.edit_move_of_free hsource htarget h]

variable {p : LanguageProfile}

/-- **An edit takes effect as the plain one.** -/
theorem translators_edit (hp : p.Unpadded) (e : ChainEdit) :
    (p.edit e).profile.translators = p.translators.after e := by
  rw [translators, primary_edit]
  cases e with
  | setPrimary t =>
    rw [Translators.after_of_ok (Translators.edit_setPrimary p.translators t)]
    exact congrArg (Translators.mk (trim t)) (effectiveChain_setPrimary hp.primary hp.fallbacks t)
  | add t =>
    have hchain := p.effectiveChain_addFallback t
    by_cases hempty : trim t = ""
    · rw [if_pos (.inl hempty)] at hchain
      rw [Translators.after_of_error (v := p.translators) (e := .add t) (if_pos hempty)]
      exact congrArg (Translators.mk p.primary) hchain
    · simp only [hempty, false_or] at hchain
      rw [Translators.after_of_ok (v := p.translators) (e := .add t) (if_neg hempty)]
      exact congrArg (Translators.mk p.primary) hchain
  | remove t =>
    have hchain := p.effectiveChain_removeFallback t
    simp only [hp.primary] at hchain
    by_cases h : p.primary ≠ "" ∧ trim t = p.primary
    · rw [if_pos h] at hchain
      rw [Translators.after_of_error (v := p.translators) (e := .remove t) (if_pos h)]
      exact congrArg (Translators.mk p.primary) hchain
    · rw [if_neg h] at hchain
      rw [Translators.after_of_ok (v := p.translators) (e := .remove t) (if_neg h)]
      exact congrArg (Translators.mk p.primary) hchain
  | move source target =>
    rcases p.translators.move_cases source target with hle | ⟨hsource, htarget, h | h⟩
    · rw [Translators.after_of_error (Translators.edit_move_of_le hle), edit,
        moveFallback_of_le hle, effectiveChain_tidied]
      rfl
    · rw [Translators.after_of_error (Translators.edit_move_of_pinned hsource htarget h), edit,
        moveFallback_of_pinned hsource htarget h, effectiveChain_tidied]
      rfl
    · have hplace : source < p.effectiveChain.length := hsource
      rw [Translators.after_of_ok (Translators.edit_move_of_free hsource htarget h), edit,
        effectiveChain_moveFallback hplace htarget h, moveEntry_of_lt hplace]
      rfl

/-- No edit stores a name with blanks around it. -/
theorem Unpadded.edit (hp : p.Unpadded) (e : ChainEdit) : (p.edit e).profile.Unpadded := by
  have hchain : ∀ b ∈ p.effectiveChain, trim b = b := p.tidy_effectiveChain.trimmed
  cases e with
  | setPrimary t =>
    refine ⟨trim_trim t, fun b hb => ?_⟩
    rw [LanguageProfile.edit, fallbacks_setPrimary] at hb
    rcases List.mem_append.1 hb with hb | hb
    · exact (tidy_primaryHead t).trimmed b hb
    · exact hp.fallbacks b (List.mem_filter.1 hb).1
  | add t =>
    simp only [LanguageProfile.edit, addFallback]
    split
    · exact hp
    · split
      · exact ⟨hp.primary, hchain⟩
      · next hempty hnew => exact ⟨hp.primary, (p.tidy_effectiveChain.concat hempty hnew).trimmed⟩
  | remove t =>
    simp only [LanguageProfile.edit, removeFallback]
    split
    · exact hp
    · exact ⟨hp.primary, fun b hb => hchain b (List.mem_filter.1 hb).1⟩
  | move source target =>
    simp only [LanguageProfile.edit, moveFallback]
    split
    · exact ⟨hp.primary, hchain⟩
    · next hrange =>
      split
      · exact ⟨hp.primary, hchain⟩
      · rw [not_or, Nat.not_le, Nat.not_le] at hrange
        have hperm := moveEntry_perm hrange.1 hrange.2
        exact ⟨hp.primary, fun b hb => hchain b (hperm.subset hb)⟩

/-! ### Many edits -/

@[simp] theorem editAll_cons (e : ChainEdit) (edits : List ChainEdit) :
    p.editAll (e :: edits) = (p.edit e).profile.editAll edits := rfl

theorem Unpadded.editAll (hp : p.Unpadded) (edits : List ChainEdit) :
    (p.editAll edits).Unpadded := by
  induction edits generalizing p with
  | nil => exact hp
  | cons e edits ih => exact ih (hp.edit e)

/-- A run of edits takes effect as the run of plain ones. -/
theorem translators_editAll (hp : p.Unpadded) (edits : List ChainEdit) :
    (p.editAll edits).translators = edits.foldl Translators.after p.translators := by
  induction edits generalizing p with
  | nil => rfl
  | cons e edits ih => rw [editAll_cons, ih (hp.edit e), translators_edit hp, List.foldl_cons]

/-- A run of edits changes nothing but the translators. -/
theorem frame_editAll (edits : List ChainEdit) :
    p.editAll edits = { p with
      primary := (p.editAll edits).primary
      fallbacks := (p.editAll edits).fallbacks } := by
  induction edits generalizing p with
  | nil => rfl
  | cons e edits ih =>
    rw [editAll_cons, ih, frame_edit p e]

/-- **Every run of edits is a run of plain edits of a list**, if no name is stored with blanks
around it.  Each edit is refused as the plain one and takes effect as the plain one; the list has
the primary translator first, if there is one, and nothing twice; and nothing but the translators
is changed. -/
theorem edits_are_list_edits (hp : p.Unpadded) (edits : List ChainEdit) :
    let q := p.editAll edits
    q.translators = edits.foldl Translators.after p.translators ∧
    (∀ e, (q.edit e).refusal = q.translators.refusal? e ∧
      (q.edit e).profile.translators = q.translators.after e) ∧
    q.effectiveChain.Nodup ∧
    (q.primary ≠ "" → q.effectiveChain.head? = some q.primary) ∧
    q = { p with primary := q.primary, fallbacks := q.fallbacks } := by
  intro q
  have hq : q.Unpadded := hp.editAll edits
  refine ⟨translators_editAll hp edits, fun e => ⟨refusal_edit q e, translators_edit hq e⟩,
    q.tidy_effectiveChain.nodup, fun hne => ?_, frame_editAll edits⟩
  have hhead := q.head?_effectiveChain
  rw [hq.primary] at hhead
  exact hhead hne

/-- A chain is stored with the primary translator in its middle, an empty name and a repetition. -/
theorem edits_are_list_edits_of_untidy :
    let p : LanguageProfile :=
      { id := ⟨1⟩, sourceLanguage := "en", targetLanguages := ["de"], primary := "deepl",
        fallbacks := ["google", "", "deepl", "libre", "google"] }
    let edits : List ChainEdit := [.move 2 1, .move 0 1, .setPrimary " google", .add "argos"]
    p.Unpadded ∧ (p.editAll edits).translators = ⟨"google", ["google", "libre", "argos"]⟩ := by
  intro p edits
  have hp : p.Unpadded := ⟨by decide +kernel, by decide +kernel⟩
  refine ⟨hp, ?_⟩
  rw [(edits_are_list_edits hp edits).1]
  decide +kernel

end LanguageProfile

end SubtitleCoverage
