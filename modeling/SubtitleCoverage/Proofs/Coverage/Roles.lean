import SubtitleCoverage.Proofs.Coverage.Agreement
import SubtitleCoverage.Proofs.Positions

/-!
# What becomes of a sidecar

Coverage is found language by language, the sidecars left over in two more passes.  Each of the
passes looks at a sidecar in its own way, yet a sidecar with path and language comes out in one
place: as the file behind all slots of its group, among the repeated or the extra ones, or nowhere.
Sidecars can be equal, so they are told apart by their positions.

## Main definitions

* `IsSlotGroup u t g` — the sidecars of a group can be behind a target language.
* `SidecarRole`, `HasRole` — what becomes of a sidecar that comes after others.
* `RoleAt u p ss i role` — what becomes of the sidecar at a position.

## Main results

* `picks_extras`, `picks_duplicates` — the sidecars that are left over, by position.
* `sidecarPath_eq_some_iff` — the file behind a language.
* `every_sidecar_one_role` — **every sidecar has one role**, and the resolution is made of them.
-/

namespace SubtitleCoverage

open Text

/-! ### Roles -/

/-- A group has the language of a target and the form in which the unit has it in a file of its
own; a unit without a video file has none. -/
def IsSlotGroup (u : MediaUnit) (t : String) (g : SidecarGroup) : Prop :=
  u.hasFile = true ∧ g.language = LanguageProfile.targetCode t ∧
    (u.declaredFormat (trim t)).sidecarFormat? = some g.format

/-- What becomes of a sidecar. -/
inductive SidecarRole where
  /-- It has another language than those of the profile. -/
  | extra
  /-- It is the file behind the slots of its group. -/
  | behind
  /-- It could be, but another one of its group comes before it. -/
  | repeated
  /-- No slot has its group. -/
  | unused
deriving DecidableEq, Repr

/-- A sidecar has one of the languages of a profile. -/
def IsTargeted (p : LanguageProfile) (s : Sidecar) : Prop :=
  s.normalizedLanguage ∈ p.normalizedTargets

/-- A sidecar has the group of some slot. -/
def IsWanted (u : MediaUnit) (p : LanguageProfile) (s : Sidecar) : Prop :=
  ∃ t ∈ p.targetLanguages, ∃ g, s.group? = some g ∧ IsSlotGroup u t g

/-- No sidecar before has the group. -/
def IsFirst (before : List Sidecar) (s : Sidecar) : Prop := ∀ o ∈ before, o.group? ≠ s.group?

/-- What becomes of a sidecar that comes after some others. -/
def HasRole (u : MediaUnit) (p : LanguageProfile) (before : List Sidecar) (s : Sidecar) :
    SidecarRole → Prop
  | .extra => ¬IsTargeted p s
  | .behind => IsTargeted p s ∧ IsWanted u p s ∧ IsFirst before s
  | .repeated => IsTargeted p s ∧ IsWanted u p s ∧ ¬IsFirst before s
  | .unused => IsTargeted p s ∧ ¬IsWanted u p s

/-- What becomes of the sidecar at a position. -/
def RoleAt (u : MediaUnit) (p : LanguageProfile) (ss : List Sidecar) (i : Nat)
    (role : SidecarRole) : Prop :=
  ∃ s, ss[i]? = some s ∧ HasRole u p (ss.take i) s role

/-- A sidecar has one role. -/
theorem existsUnique_hasRole (u : MediaUnit) (p : LanguageProfile) (before : List Sidecar)
    (s : Sidecar) : ∃ role, HasRole u p before s role ∧
      ∀ other, HasRole u p before s other → other = role := by
  by_cases htargeted : IsTargeted p s
  · by_cases hwanted : IsWanted u p s
    · by_cases hfirst : IsFirst before s
      · refine ⟨.behind, ⟨htargeted, hwanted, hfirst⟩, fun other hother => ?_⟩
        cases other with
        | extra => exact absurd htargeted hother
        | behind => rfl
        | repeated => exact absurd hfirst hother.2.2
        | unused => exact absurd hwanted hother.2
      · refine ⟨.repeated, ⟨htargeted, hwanted, hfirst⟩, fun other hother => ?_⟩
        cases other with
        | extra => exact absurd htargeted hother
        | behind => exact absurd hother.2.2 hfirst
        | repeated => rfl
        | unused => exact absurd hwanted hother.2
    · refine ⟨.unused, ⟨htargeted, hwanted⟩, fun other hother => ?_⟩
      cases other with
      | extra => exact absurd htargeted hother
      | behind => exact absurd hother.2.1 hwanted
      | repeated => exact absurd hother.2.1 hwanted
      | unused => rfl
  · refine ⟨.extra, htargeted, fun other hother => ?_⟩
    cases other with
    | extra => rfl
    | behind => exact absurd hother.1 htargeted
    | repeated => exact absurd hother.1 htargeted
    | unused => exact absurd hother.1 htargeted

/-! ### Slots -/

theorem slotGroup?_eq_some_iff {u : MediaUnit} {t : String} {g : SidecarGroup} :
    slotGroup? u t = some g ↔ IsSlotGroup u t g := by
  unfold slotGroup? slotFormat IsSlotGroup
  cases hfile : u.hasFile with
  | false => simp [SubtitleFormat.sidecarFormat?]
  | true =>
    obtain ⟨language, format⟩ := g
    simp only [if_true, Option.map_eq_some_iff, SidecarGroup.mk.injEq, true_and]
    constructor
    · rintro ⟨f, hf, hlanguage, rfl⟩
      exact ⟨hlanguage.symm, hf⟩
    · rintro ⟨hlanguage, hf⟩
      exact ⟨format, hf, hlanguage.symm, rfl⟩

/-- The language of a sidecar is that of its group. -/
theorem normalizedLanguage_of_group? {s : Sidecar} {g : SidecarGroup} (h : s.group? = some g) :
    s.normalizedLanguage = g.language := by
  obtain ⟨f, -, hg⟩ := Option.map_eq_some_iff.1 h
  rw [← hg]

/-- A sidecar with the group of a slot has the language of a target. -/
theorem IsWanted.isTargeted {u : MediaUnit} {p : LanguageProfile} {s : Sidecar}
    (h : IsWanted u p s) : IsTargeted p s := by
  obtain ⟨t, ht, g, hg, -, hlanguage, -⟩ := h
  rw [IsTargeted, normalizedLanguage_of_group? hg, hlanguage]
  exact List.mem_map_of_mem ht

theorem isWanted_iff_of_group? {u : MediaUnit} {p : LanguageProfile} {s : Sidecar}
    {g : SidecarGroup} (h : s.group? = some g) :
    IsWanted u p s ↔ g ∈ p.targetLanguages.filterMap (slotGroup? u) := by
  rw [List.mem_filterMap]
  constructor
  · rintro ⟨t, ht, g', hg', hslot⟩
    rw [h] at hg'
    cases hg'
    exact ⟨t, ht, slotGroup?_eq_some_iff.2 hslot⟩
  · rintro ⟨t, ht, hslot⟩
    exact ⟨t, ht, g, h, slotGroup?_eq_some_iff.1 hslot⟩

/-! ### Sidecars that are left over -/

/-- The extra sidecars, by position. -/
theorem picks_extras (u : MediaUnit) (p : LanguageProfile) (ss : List Sidecar) :
    Picks ss (fun i => RoleAt u p ss i .extra)
      (ss.filter fun s => !p.normalizedTargets.contains s.normalizedLanguage) := by
  refine (picks_filter _ ss).congr fun i _ => ?_
  refine exists_congr fun s => and_congr_right fun _ => ?_
  rw [Bool.not_eq_true', ← Bool.not_eq_true, List.contains_iff_mem]
  rfl

/-- The repeated sidecars, by position: those of a wanted group that has been seen or is the group
of one before. -/
theorem picks_repeatedSidecars (wanted : List SidecarGroup) :
    ∀ (seen : List SidecarGroup) (ss : List Sidecar),
      Picks ss (fun i => ∃ s g, ss[i]? = some s ∧ s.group? = some g ∧ g ∈ wanted ∧
          (g ∈ seen ∨ ∃ o ∈ ss.take i, o.group? = some g))
        (repeatedSidecars wanted seen ss) := by
  intro seen ss
  induction ss generalizing seen with
  | nil => exact picks_nil _
  | cons s ss ih =>
    rw [repeatedSidecars.eq_def]
    cases hgroup : s.group? with
    | none =>
      simp only [hgroup]
      refine picks_cons_neg ?_ ((ih seen).congr fun i _ => ?_)
      · rintro ⟨s', g, hs', hg, -⟩
        cases hs'
        rw [hgroup] at hg
        cases hg
      · simp [hgroup]
    | some g =>
      simp only [hgroup]
      split
      · next h =>
        refine picks_cons_pos ⟨s, g, rfl, hgroup, h.2, .inl h.1⟩ ((ih seen).congr fun i _ => ?_)
        -- the group of this sidecar has been seen, so its position adds nothing
        refine exists_congr fun s' => exists_congr fun g' => ?_
        refine and_congr_right fun _ => and_congr_right fun _ => and_congr_right fun _ => ?_
        rw [List.take_succ_cons, List.exists_mem_cons_iff, hgroup]
        constructor
        · rintro (hseen | hbefore)
          · exact .inl hseen
          · exact .inr (.inr hbefore)
        · rintro (hseen | heq | hbefore)
          · exact .inl hseen
          · cases heq
            exact .inl h.1
          · exact .inr hbefore
      · next h =>
        refine picks_cons_neg ?_ ((ih (g :: seen)).congr fun i _ => ?_)
        · rintro ⟨s', g', hs', hg', hwanted, hbefore⟩
          cases hs'
          rw [hgroup] at hg'
          cases hg'
          rcases hbefore with hseen | ⟨o, ho, -⟩
          · exact h ⟨hseen, hwanted⟩
          · cases ho
        · refine exists_congr fun s' => exists_congr fun g' => ?_
          refine and_congr_right fun _ => and_congr_right fun _ => and_congr_right fun _ => ?_
          rw [List.take_succ_cons, List.exists_mem_cons_iff, hgroup, List.mem_cons, Option.some.injEq,
            eq_comm (a := g'), or_assoc, or_left_comm]

/-- The duplicates, by position. -/
theorem picks_duplicates (u : MediaUnit) (p : LanguageProfile) (ss : List Sidecar) :
    Picks ss (fun i => RoleAt u p ss i .repeated)
      (repeatedSidecars (p.targetLanguages.filterMap (slotGroup? u)) [] ss) := by
  refine (picks_repeatedSidecars _ [] ss).congr fun i _ => ?_
  refine exists_congr fun s => ?_
  constructor
  · rintro ⟨g, hs, hg, hwanted, hbefore⟩
    have hw : IsWanted u p s := (isWanted_iff_of_group? hg).2 hwanted
    refine ⟨hs, hw.isTargeted, hw, fun hfirst => ?_⟩
    rcases hbefore with hseen | ⟨o, ho, hog⟩
    · cases hseen
    · exact hfirst o ho (hog.trans hg.symm)
  · rintro ⟨hs, -, hw, hfirst⟩
    obtain ⟨t, ht, g, hg, hslot⟩ := hw
    refine ⟨g, hs, hg, (isWanted_iff_of_group? hg).1 ⟨t, ht, g, hg, hslot⟩, .inr ?_⟩
    unfold IsFirst at hfirst
    simp only [ne_eq, Classical.not_forall, Classical.not_not] at hfirst
    obtain ⟨o, ho, hog⟩ := hfirst
    exact ⟨o, ho, hog.trans hg⟩

/-! ### The file behind a language -/

/-- The file behind a target language is the first sidecar of the group of its slot. -/
theorem sidecarPath_eq_some_iff {u : MediaUnit} {p : LanguageProfile} {ss : List Sidecar}
    {t : String} (ht : t ∈ p.targetLanguages) {path : String} :
    (coverageOf u ss t).sidecarPath = some path ↔
      ∃ i s g, ss[i]? = some s ∧ RoleAt u p ss i .behind ∧ s.group? = some g ∧
        IsSlotGroup u t g ∧ s.path = path := by
  simp only [coverageOf, Option.map_eq_some_iff, Option.bind_eq_some_iff,
    List.find?_eq_some_iff_append]
  constructor
  · rintro ⟨s, ⟨g, hg, hs, before, later, rfl, hbefore⟩, rfl⟩
    have hgroup : s.group? = some g := of_decide_eq_true hs
    have hslot := slotGroup?_eq_some_iff.1 hg
    have hw : IsWanted u p s := ⟨t, ht, g, hgroup, hslot⟩
    have hat : (before ++ s :: later)[before.length]? = some s := by simp
    refine ⟨before.length, s, g, hat, ⟨s, hat, hw.isTargeted, hw, ?_⟩, hgroup, hslot, rfl⟩
    rw [List.take_left]
    intro o ho hog
    have := hbefore o ho
    simp [hog, hgroup] at this
  · rintro ⟨i, s, g, hs, ⟨s', hs', -, -, hfirst⟩, hgroup, hslot, rfl⟩
    rw [hs] at hs'
    cases hs'
    obtain ⟨hi, rfl⟩ := List.getElem?_eq_some_iff.1 hs
    refine ⟨ss[i], ⟨g, slotGroup?_eq_some_iff.2 hslot, decide_eq_true hgroup, ss.take i,
      ss.drop (i + 1), ?_, ?_⟩, rfl⟩
    · rw [List.getElem_cons_drop, List.take_append_drop]
    · intro o ho
      have hne := hfirst o ho
      rw [hgroup] at hne
      simpa using hne

/-- Of the sidecars of a group at most one is behind its slots. -/
theorem eq_of_roleAt_behind {u : MediaUnit} {p : LanguageProfile} {ss : List Sidecar} {i j : Nat}
    {s s' : Sidecar} (hs : ss[i]? = some s) (hs' : ss[j]? = some s')
    (hi : RoleAt u p ss i .behind) (hj : RoleAt u p ss j .behind) (h : s.group? = s'.group?) :
    i = j := by
  have hle : ∀ {a b : Nat} {x y : Sidecar}, ss[a]? = some x → ss[b]? = some y →
      RoleAt u p ss b .behind → x.group? = y.group? → b ≤ a := by
    intro a b x y hx hy hb hxy
    obtain ⟨y', hy', -, -, hfirst⟩ := hb
    rw [hy] at hy'
    cases hy'
    by_contra hlt
    have hmem : x ∈ ss.take b :=
      List.mem_iff_getElem?.2 ⟨a, by rw [List.getElem?_take_of_lt (Nat.lt_of_not_le hlt), hx]⟩
    exact hfirst x hmem hxy
  exact Nat.le_antisymm (hle hs' hs hi h.symm) (hle hs hs' hj h)

/-! ### The resolution -/

/-- Without a video file nothing is there, and no sidecar is looked for. -/
theorem coverageOf_of_not_hasFile {u : MediaUnit} (h : u.hasFile = false) (ss : List Sidecar)
    (t : String) : coverageOf u ss t = ⟨.missing, none, false, .absent⟩ := by
  have hformat : slotFormat u t = .absent := by
    rw [slotFormat, h, if_neg Bool.false_ne_true]
  rw [coverageOf, slotGroup?, hformat]
  rfl

/-- **Every sidecar has one role**, and the resolution is made of them.  There is an entry for each
target language, in the order of the profile, with the state of what the unit declares and the path
of the sidecar behind its slot; the extra and the repeated sidecars are listed in order and once
each; the other ones, and those without path or language, leave no trace. -/
theorem every_sidecar_one_role (u : MediaUnit) (sidecars : List Sidecar) (p : LanguageProfile) :
    let r := resolve u sidecars p
    let ss := sidecars.filter (·.isWellFormed)
    r.perLanguage.map (·.language) = p.targetLanguages ∧
    (∀ c ∈ r.perLanguage,
      c.coverage.format =
        (if u.hasFile then u.declaredFormat (trim c.language) else .absent) ∧
      c.coverage.state = classify c.coverage.format ∧
      c.coverage.isEmbedded = c.coverage.format.isEmbedded ∧
      (u.hasFile = false → c.coverage = ⟨.missing, none, false, .absent⟩) ∧
      ∀ path, c.coverage.sidecarPath = some path ↔
        ∃ i s g, ss[i]? = some s ∧ RoleAt u p ss i .behind ∧ s.group? = some g ∧
          IsSlotGroup u c.language g ∧ s.path = path) ∧
    Picks ss (fun i => RoleAt u p ss i .extra) r.extras ∧
    Picks ss (fun i => RoleAt u p ss i .repeated) r.duplicates ∧
    (∀ i < ss.length, ∃ role, RoleAt u p ss i role ∧
      ∀ other, RoleAt u p ss i other → other = role) ∧
    (∀ i j s s', ss[i]? = some s → ss[j]? = some s' → RoleAt u p ss i .behind →
      RoleAt u p ss j .behind → s.group? = s'.group? → i = j) ∧
    resolve u ss p = r := by
  intro r ss
  refine ⟨map_language_perLanguage u sidecars p, ?_, picks_extras u p ss, picks_duplicates u p ss,
    ?_, fun i j s s' hs hs' hi hj h => eq_of_roleAt_behind hs hs' hi hj h, ?_⟩
  · intro c hc
    obtain ⟨t, ht, rfl⟩ := List.mem_map.1 hc
    exact ⟨rfl, rfl, rfl, fun hfile => coverageOf_of_not_hasFile hfile ss t,
      fun path => sidecarPath_eq_some_iff ht⟩
  · intro i hi
    obtain ⟨role, hrole, hunique⟩ := existsUnique_hasRole u p (ss.take i) ss[i]
    refine ⟨role, ⟨ss[i], List.getElem?_eq_getElem hi, hrole⟩, ?_⟩
    rintro other ⟨s, hs, hother⟩
    rw [List.getElem?_eq_getElem hi] at hs
    cases hs
    exact hunique other hother
  · simp only [r, ss, resolve, List.filter_filter, Bool.and_self]

/-- Two spellings of one language: the first file is behind both slots, the second one repeats it. -/
example :
    let u : MediaUnit :=
      { id := ⟨1⟩, title := "", hasFile := true, subtitles := .ofList [("de", .srt)] }
    let s (path language : String) : Sidecar := ⟨path, language, "srt", none⟩
    let r := resolve u [s "a" "de", s "" "de", s "b" "ger", s "c" "fr"]
      { id := ⟨1⟩, sourceLanguage := "en", targetLanguages := ["deu", "de"] }
    r.perLanguage.map (·.coverage.sidecarPath) = [some "a", some "a"] ∧
      r.duplicates.map (·.path) = ["b"] ∧ r.extras.map (·.path) = ["c"] := by decide +kernel

end SubtitleCoverage
