import SubtitleCoverage.Proofs.Coverage.Agreement
import SubtitleCoverage.Proofs.Language
import SubtitleCoverage.Proofs.Profile.Default

/-!
# Looking up a language in a resolution

A profile is asked for a language without the blanks around it, a resolution by the spelling as it
is, and the slots of a resolution are labelled with the spellings of the profile.  No code that is
folded has blanks around it, so a spelling with blanks stands for itself, in lower case.  A profile
without repeated languages has one slot for each of its languages, and that slot is found by every
spelling of the language unless blanks keep the spelling and the label apart.

## Main definitions

* `Language.SpelledAlike a b` — blanks do not keep two spellings apart.

## Main results

* `Language.same_iff` — two spellings are taken for one language iff they name one target language
  and are spelled alike.
* `get?_resolve` — **a language of the profile has one slot, found by the spellings that are alike.**
* `slot_hidden_by_blanks` — blanks around a target language or around a code hide the slot.
-/

namespace SubtitleCoverage

open Text LanguageProfile

/-! ### Spellings of a language -/

namespace Language

/-- There are no blanks around two spellings, or the spellings differ by the case of letters only. -/
def SpelledAlike (a b : String) : Prop := (trim a = a ∧ trim b = b) ∨ lower a = lower b

instance (a b : String) : Decidable (SpelledAlike a b) := inferInstanceAs (Decidable (_ ∨ _))

theorem SpelledAlike.refl (a : String) : SpelledAlike a a := .inr rfl

theorem trim_of_mem_codes : ∀ e ∈ codes, trim e.1 = e.1 ∧ trim e.2 = e.2 := by decide +kernel

/-- Folding neither takes blanks from a spelling nor puts blanks around it. -/
theorem trim_normalize_eq_self_iff (a : String) : trim (normalize a) = normalize a ↔ trim a = a := by
  rcases normalize_cases a with ⟨e, he, hlower, hnormalize⟩ | ⟨-, hnormalize⟩
  · obtain ⟨hthree, htwo⟩ := trim_of_mem_codes e he
    rw [hlower] at hthree
    exact iff_of_true (hnormalize ▸ htwo) ((trim_lower_eq_self_iff a).1 hthree)
  · rw [hnormalize, trim_lower_eq_self_iff]

/-- A spelling with blanks around it stands for itself, in lower case. -/
theorem normalize_of_blanks {a : String} (h : trim a ≠ a) : normalize a = lower a := by
  rcases normalize_cases a with ⟨e, he, hlower, -⟩ | ⟨-, hnormalize⟩
  · have hthree := (trim_of_mem_codes e he).1
    rw [hlower] at hthree
    exact absurd ((trim_lower_eq_self_iff a).1 hthree) h
  · exact hnormalize

/-- **When two spellings are taken for one language**: they name one target language and are spelled
alike. -/
theorem same_iff (a b : String) :
    same a b = true ↔ targetCode a = targetCode b ∧ SpelledAlike a b := by
  rw [same, beq_iff_eq, SpelledAlike]
  constructor
  · intro h
    have hblanks : trim a = a ↔ trim b = b := by
      rw [← trim_normalize_eq_self_iff a, ← trim_normalize_eq_self_iff b, h]
    by_cases ha : trim a = a
    · have hb := hblanks.1 ha
      refine ⟨?_, .inl ⟨ha, hb⟩⟩
      rw [targetCode, targetCode, ha, hb, h]
    · rw [normalize_of_blanks ha, normalize_of_blanks fun hb => ha (hblanks.2 hb)] at h
      refine ⟨?_, .inr h⟩
      rw [targetCode, targetCode]
      exact normalize_congr (by rw [lower_trim, lower_trim, h])
  · rintro ⟨hcode, ⟨ha, hb⟩ | hlower⟩
    · rwa [targetCode, targetCode, ha, hb] at hcode
    · exact normalize_congr hlower

end Language

/-! ### The slot of a language -/

/-- Among entries without repeated keys, one has a key that occurs. -/
theorem exists_filter_eq_singleton {α β : Type} [DecidableEq β] {f : α → β} {xs : List α}
    (hnodup : (xs.map f).Nodup) {b : β} (hb : b ∈ xs.map f) :
    ∃ x, xs.filter (fun x => f x = b) = [x] := by
  have hcount := List.count_eq_one_of_mem hnodup hb
  rw [List.count, List.countP_map, List.countP_eq_length_filter, List.length_eq_one_iff] at hcount
  exact hcount

/-- Looking for an entry comes down to one entry if only that can be the one. -/
theorem find?_of_filter_eq_singleton {α : Type} {p q : α → Bool} {xs : List α} {x : α}
    (himp : ∀ y, q y = true → p y = true) (h : xs.filter p = [x]) :
    xs.find? q = if q x then some x else none := by
  have hboth : (fun y => decide (p y = true ∧ q y = true)) = q := by
    funext y
    rw [Bool.eq_iff_iff, decide_eq_true_eq]
    exact ⟨fun hy => hy.2, fun hy => ⟨himp y hy, hy⟩⟩
  rw [← hboth, ← List.find?_filter, h, hboth, List.find?_singleton]

theorem map_perLanguage_resolve (u : MediaUnit) (sidecars : List Sidecar) (p : LanguageProfile) :
    ((resolve u sidecars p).perLanguage.map fun c => targetCode c.language) = p.normalizedTargets := by
  rw [normalizedTargets, ← map_language_perLanguage u sidecars p, List.map_map, Function.comp_def]

/-- What is found for a code is in a slot of the language that the code names. -/
theorem Resolution.get?_eq_none (r : Resolution) {code : String}
    (h : targetCode code ∉ r.perLanguage.map fun c => targetCode c.language) : r.get? code = none := by
  rw [get?, List.find?_eq_none.2, Option.map_none]
  intro c hc hsame
  refine h (List.mem_map.2 ⟨c, hc, ?_⟩)
  exact ((Language.same_iff _ _).1 hsame).1

/-- **Looking up a language**: without a slot for the language nothing is found, and the only slot of
the language is found by a code that is spelled as its label is. -/
theorem Resolution.get?_of_filter_eq_singleton {r : Resolution} {code : String} {c : LanguageCoverage}
    (h : r.perLanguage.filter (fun c => targetCode c.language = targetCode code) = [c]) :
    r.get? code = if Language.SpelledAlike c.language code then some c.coverage else none := by
  have hmem : c ∈ r.perLanguage.filter fun c => targetCode c.language = targetCode code := by
    rw [h]
    exact List.mem_singleton_self c
  have hcode : targetCode c.language = targetCode code := of_decide_eq_true (List.mem_filter.1 hmem).2
  have hsame : Language.same c.language code = true ↔ Language.SpelledAlike c.language code := by
    rw [Language.same_iff]
    exact ⟨fun hboth => hboth.2, fun halike => ⟨hcode, halike⟩⟩
  rw [get?, find?_of_filter_eq_singleton _ h]
  · by_cases halike : Language.SpelledAlike c.language code
    · rw [if_pos (hsame.2 halike), if_pos halike, Option.map_some]
    · rw [if_neg fun hs => halike (hsame.1 hs), if_neg halike, Option.map_none]
  · intro d hd
    exact decide_eq_true ((Language.same_iff _ _).1 hd).1

/-- **A language of the profile has one slot, found by the spellings that are alike**: for a profile
that can be stored, a code of no target language finds nothing, a code of a target language finds the
one slot of the language iff it is spelled as the label is.  So each slot is found by its label, and
without blanks a resolution has just the languages that the profile has, in either standard. -/
theorem get?_resolve {p : LanguageProfile} (hp : p.validate = .ok ()) (u : MediaUnit)
    (sidecars : List Sidecar) (code : String) :
    let r := resolve u sidecars p
    (p.targetsLanguage code = false → r.get? code = none) ∧
    (p.targetsLanguage code = true →
      ∃ c, r.perLanguage.filter (fun c => targetCode c.language = targetCode code) = [c] ∧
        r.get? code = if Language.SpelledAlike c.language code then some c.coverage else none) ∧
    (∀ c ∈ r.perLanguage, r.get? c.language = some c.coverage) ∧
    ((∀ t ∈ p.targetLanguages, trim t = t) → trim code = code →
      (r.get? code).isSome = p.targetsLanguage code) := by
  intro r
  have hcodes : (r.perLanguage.map fun c => targetCode c.language) = p.normalizedTargets :=
    map_perLanguage_resolve u sidecars p
  have hnodup : (r.perLanguage.map fun c => targetCode c.language).Nodup := by
    rw [hcodes]
    exact ((validate_eq_ok_iff p).1 hp).nodup
  have hnone : p.targetsLanguage code = false → r.get? code = none := by
    intro h
    rw [targetsLanguage, List.contains_eq_mem, decide_eq_false_iff_not, ← hcodes] at h
    exact r.get?_eq_none h
  have hslot : p.targetsLanguage code = true →
      ∃ c, r.perLanguage.filter (fun c => targetCode c.language = targetCode code) = [c] ∧
        r.get? code = if Language.SpelledAlike c.language code then some c.coverage else none := by
    intro h
    rw [targetsLanguage, List.contains_eq_mem, decide_eq_true_eq, ← hcodes] at h
    obtain ⟨c, hc⟩ := exists_filter_eq_singleton hnodup h
    exact ⟨c, hc, Resolution.get?_of_filter_eq_singleton hc⟩
  refine ⟨hnone, hslot, ?_, ?_⟩
  · intro c hc
    obtain ⟨d, hd⟩ := exists_filter_eq_singleton hnodup (List.mem_map_of_mem hc)
    have hcd : c ∈ r.perLanguage.filter fun e => targetCode e.language = targetCode c.language :=
      List.mem_filter.2 ⟨hc, decide_eq_true rfl⟩
    rw [hd, List.mem_singleton] at hcd
    subst hcd
    rw [Resolution.get?_of_filter_eq_singleton hd, if_pos (.refl _)]
  · intro htargets hcode
    cases htargeted : p.targetsLanguage code with
    | false => rw [hnone htargeted, Option.isSome_none]
    | true =>
      obtain ⟨c, hc, hget⟩ := hslot htargeted
      have hmem : c ∈ r.perLanguage := List.mem_of_mem_filter (hc ▸ List.mem_singleton_self c)
      obtain ⟨t, ht, rfl⟩ := List.mem_map.1 hmem
      rw [hget, if_pos (.inl ⟨htargets t ht, hcode⟩), Option.isSome_some]

/-- A Japanese slot is found in the other standard, and a French one with blanks around its label by the
label in other letters. -/
theorem get?_resolve_japanese_french :
    let u : MediaUnit :=
      { id := ⟨1⟩, title := "", hasFile := true, subtitles := .ofList [("jpn", .ass), ("fr", .srt)] }
    let p : LanguageProfile :=
      { id := ⟨1⟩, sourceLanguage := "en", targetLanguages := ["ger", "ja", " fr "] }
    p.validate = .ok () ∧
    (resolve u [] p).get? "JPN" = some ⟨.optimal, none, false, .ass⟩ ∧
    (resolve u [] p).get? " FR " = some ⟨.upgradeable, none, false, .srt⟩ := by
  intro u p
  have hp : p.validate = .ok () := by decide +kernel
  refine ⟨hp, ?_, ?_⟩
  · obtain ⟨c, hc, hget⟩ := (get?_resolve hp u [] "JPN").2.1 (by decide +kernel)
    have hslot : (resolve u [] p).perLanguage.filter
        (fun c => targetCode c.language = targetCode "JPN") =
          [⟨"ja", .optimal, none, false, .ass⟩] := by decide +kernel
    rw [hslot, List.singleton_inj] at hc
    rw [hget, ← hc]
    decide +kernel
  · obtain ⟨c, hc, hget⟩ := (get?_resolve hp u [] " FR ").2.1 (by decide +kernel)
    have hslot : (resolve u [] p).perLanguage.filter
        (fun c => targetCode c.language = targetCode " FR ") =
          [⟨" fr ", .upgradeable, none, false, .srt⟩] := by decide +kernel
    rw [hslot, List.singleton_inj] at hc
    rw [hget, ← hc]
    decide +kernel

/-- **Blanks hide a slot**: the profile has the language and the resolution has its slot, but a target
language with blanks around it is not found by its code, and one without them is not found by its code
between blanks. -/
theorem slot_hidden_by_blanks :
    let u : MediaUnit :=
      { id := ⟨1⟩, title := "A", hasFile := true, subtitles := .ofList [("de", .srt)] }
    let s : Sidecar := ⟨"a.de.srt", "de", "srt", none⟩
    let p (target : String) : LanguageProfile :=
      { id := ⟨1⟩, name := "German", sourceLanguage := "en", targetLanguages := [target] }
    ((p " de ").validate = .ok () ∧ (p " de ").targetsLanguage "de" = true ∧
      (resolve u [s] (p " de ")).perLanguage =
        [⟨" de ", .upgradeable, some "a.de.srt", false, .srt⟩] ∧
      (resolve u [s] (p " de ")).get? "de" = none) ∧
    ((p "de").validate = .ok () ∧ (p "de").targetsLanguage " de " = true ∧
      (resolve u [] (p "de")).get? " de " = none) := by
  decide +kernel

end SubtitleCoverage
