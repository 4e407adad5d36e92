import SubtitleCoverage.Proofs.Coverage.Places
import SubtitleCoverage.Proofs.Language
import SubtitleCoverage.Proofs.Listing.Answer

/-!
# Spellings of languages

A language can be written as a two-letter code or as one of two three-letter codes, in any letter case,
and target languages and sidecars may have blanks around it.  Whatever compares languages folds them
onto their codes first, so that another spelling of the same languages gives the same coverage.

What a unit declares is looked up by the spelling itself before it is looked up by the code, and the
order of the declarations is that of their spellings.  Neither makes a difference if the declarations
are for different languages.

## Main definitions

* `MediaUnit.declaredCodes`, `MediaUnit.DistinctCodes` — what a unit declares, by code.
* `MediaUnit.Respelled`, `Sidecar.Respelled`, `Resolution.Respelled` — the same in another spelling.

## Main results

* `MediaUnit.declaredFormat_congr` — what is declared for a language, in any spelling.
* `resolve_respelled` — the coverage of a unit.
* `coverage_of_respelled` — **coverage does not depend on the spelling of the languages.**
-/

namespace SubtitleCoverage

open Text LanguageProfile

/-! ### Declarations -/

namespace MediaUnit

/-- What a unit declares, by the codes of the languages. -/
def declaredCodes (u : MediaUnit) : List (String × SubtitleFormat) :=
  u.subtitles.entries.map fun e => (Language.normalize e.1, e.2)

/-- The declarations are for different languages. -/
def DistinctCodes (u : MediaUnit) : Prop := (u.subtitles.keys.map Language.normalize).Nodup

instance (u : MediaUnit) : Decidable u.DistinctCodes :=
  inferInstanceAs (Decidable (List.Nodup _))

theorem map_fst_declaredCodes (u : MediaUnit) :
    u.declaredCodes.map (·.1) = u.subtitles.keys.map Language.normalize := by
  rw [declaredCodes, OrderedMap.keys, List.map_map, List.map_map]
  rfl

theorem mem_declaredCodes_iff {u : MediaUnit} {code : String} {format : SubtitleFormat} :
    (code, format) ∈ u.declaredCodes ↔
      ∃ l, (l, format) ∈ u.subtitles.entries ∧ Language.normalize l = code := by
  simp only [declaredCodes, List.mem_map, Prod.mk.injEq, Prod.exists]
  constructor
  · rintro ⟨l, _, hmem, hcode, rfl⟩
    exact ⟨l, hmem, hcode⟩
  · rintro ⟨l, hmem, hcode⟩
    exact ⟨l, format, hmem, hcode, rfl⟩

/-- A declaration for the language is found, or there is none. -/
theorem declaredFormat_spec (u : MediaUnit) (l : String) :
    (Language.normalize l, u.declaredFormat l) ∈ u.declaredCodes ∨
    (∀ format, (Language.normalize l, format) ∉ u.declaredCodes) ∧ u.declaredFormat l = .absent := by
  simp only [mem_declaredCodes_iff]
  cases hget : u.subtitles.get? l with
  | some format =>
    have hformat : u.declaredFormat l = format := by rw [declaredFormat, hget]
    exact .inl ⟨l, by rw [hformat]; exact u.subtitles.get?_eq_some_iff.1 hget, rfl⟩
  | none =>
    cases hfound : u.subtitles.entries.find? fun e => Language.same e.1 l with
    | some e =>
      have hformat : u.declaredFormat l = e.2 := by rw [declaredFormat, hget, hfound]; rfl
      have hsame := List.find?_some hfound
      exact .inl ⟨e.1, by rw [hformat]; exact List.mem_of_find?_eq_some hfound, eq_of_beq hsame⟩
    | none =>
      refine .inr ⟨?_, by rw [declaredFormat, hget, hfound]; rfl⟩
      rintro format ⟨l', hmem, hcode⟩
      exact List.find?_eq_none.1 hfound _ hmem (beq_iff_eq.2 hcode)

/-- There is one declaration for a language at most. -/
theorem eq_of_mem_declaredCodes {u : MediaUnit} (h : u.DistinctCodes) {code : String}
    {format format' : SubtitleFormat} (hf : (code, format) ∈ u.declaredCodes)
    (hf' : (code, format') ∈ u.declaredCodes) : format = format' := by
  rw [DistinctCodes, ← map_fst_declaredCodes] at h
  exact (Prod.mk.inj (List.inj_on_of_nodup_map h hf hf' rfl)).2

/-- **What is declared for a language is the same in any spelling**, of the language as well as of the
declarations. -/
theorem declaredFormat_congr {u u' : MediaUnit} (hdistinct : u.DistinctCodes)
    (hu : u.declaredCodes.Perm u'.declaredCodes) {l l' : String}
    (hl : Language.normalize l = Language.normalize l') :
    u.declaredFormat l = u'.declaredFormat l' := by
  rcases u.declaredFormat_spec l with h | ⟨hnone, h⟩ <;>
    rcases u'.declaredFormat_spec l' with h' | ⟨hnone', h'⟩
  · rw [← hl] at h'
    exact eq_of_mem_declaredCodes hdistinct h (hu.mem_iff.2 h')
  · rw [← hl] at hnone'
    exact absurd (hu.mem_iff.1 h) (hnone' _)
  · rw [← hl] at h'
    exact absurd (hu.mem_iff.2 h') (hnone _)
  · rw [h, h']

end MediaUnit

/-! ### Codes -/

/-- Only the empty text is folded onto the empty text. -/
theorem Language.normalize_eq_empty_iff (code : String) : normalize code = "" ↔ code = "" := by
  have hlower : lower code = "" ↔ code = "" := by
    rw [← String.toList_eq_nil_iff, toList_lower, lowerChars_eq_nil_iff, String.toList_eq_nil_iff]
  have hlisted : ∀ e ∈ codes, e.1 ≠ "" ∧ e.2 ≠ "" := by decide
  rcases normalize_cases code with ⟨e, he, hthree, hnormalize⟩ | ⟨-, hnormalize⟩
  · rw [← hlower, ← hthree, hnormalize]
    exact iff_of_false (hlisted e he).2 (hlisted e he).1
  · rw [hnormalize]
    exact hlower

/-- Nothing is left of a text of blanks, and something of every other one. -/
theorem trimChars_eq_nil_iff (cs : List Char) : trimChars cs = [] ↔ ∀ c ∈ cs, isBlank c = true := by
  rw [trimChars, trimEndChars, trimStartChars, List.reverse_eq_nil_iff, List.dropWhile_eq_nil_iff]
  simp only [List.mem_reverse]
  constructor
  · intro h
    refine List.dropWhile_eq_nil_iff.1 (Classical.byContradiction fun hne => ?_)
    have hhead := List.head_dropWhile_not isBlank hne
    rw [h _ (List.head_mem hne)] at hhead
    contradiction
  · intro h c hc
    exact h c (List.dropWhile_subset _ hc)

/-- A text is blank iff its code is empty. -/
theorem isBlankText_iff_targetCode (s : String) : isBlankText s = true ↔ targetCode s = "" := by
  rw [targetCode, Language.normalize_eq_empty_iff, ← String.toList_eq_nil_iff, toList_trim,
    trimChars_eq_nil_iff, isBlankText, List.all_eq_true]

/-! ### Sidecars -/

/-- A sidecar with another spelling of its language. -/
structure Sidecar.Respelled (s s' : Sidecar) : Prop where
  rest : s' = { s with language := s'.language }
  code : s.normalizedLanguage = s'.normalizedLanguage

namespace Sidecar.Respelled

variable {s s' : Sidecar}

theorem path_eq (h : s.Respelled s') : s.path = s'.path := by rw [h.rest]

theorem group?_eq (h : s.Respelled s') : s.group? = s'.group? := by
  have hformat : s.format? = s'.format? := by rw [h.rest]; rfl
  rw [group?, group?, h.code, hformat]

theorem isWellFormed_eq (h : s.Respelled s') : s.isWellFormed = s'.isWellFormed := by
  have hblank : isBlankText s.language = isBlankText s'.language := by
    rw [Bool.eq_iff_iff, isBlankText_iff_targetCode, isBlankText_iff_targetCode]
    exact iff_of_eq (congrArg (· = "") h.code)
  rw [isWellFormed, isWellFormed, hblank, h.path_eq]

end Sidecar.Respelled

section

variable {ss ss' : List Sidecar}

/-- The first sidecar of a group has the same path. -/
theorem path_find?_respelled (h : List.Forall₂ Sidecar.Respelled ss ss') (g : SidecarGroup) :
    (ss.find? fun s => s.group? = some g).map (·.path) =
      (ss'.find? fun s => s.group? = some g).map (·.path) := by
  induction h with
  | nil => rfl
  | cons hs _ ih =>
    rw [List.find?_cons, List.find?_cons, hs.group?_eq]
    split
    · exact congrArg some hs.path_eq
    · exact ih

/-- The repeated sidecars are the same ones. -/
theorem repeatedSidecars_respelled (wanted : List SidecarGroup)
    (h : List.Forall₂ Sidecar.Respelled ss ss') (seen : List SidecarGroup) :
    List.Forall₂ Sidecar.Respelled (repeatedSidecars wanted seen ss)
      (repeatedSidecars wanted seen ss') := by
  induction h generalizing seen with
  | nil => exact .nil
  | cons hs _ ih =>
    rw [repeatedSidecars.eq_def, repeatedSidecars.eq_def wanted seen (_ :: _)]
    dsimp only
    rw [hs.group?_eq]
    split
    · exact ih seen
    · split
      · exact .cons hs (ih seen)
      · exact ih _

/-- The sidecars that count are the same ones. -/
theorem filter_isWellFormed_respelled (h : List.Forall₂ Sidecar.Respelled ss ss') :
    List.Forall₂ Sidecar.Respelled (ss.filter (·.isWellFormed)) (ss'.filter (·.isWellFormed)) :=
  List.rel_filter (fun _ _ hs => iff_of_eq (congrArg (· = true) hs.isWellFormed_eq)) h

end

/-! ### One unit -/

/-- A unit with other spellings of the languages that it declares, and of those of its audio tracks. -/
structure MediaUnit.Respelled (u u' : MediaUnit) : Prop where
  rest : u' = { u with subtitles := u'.subtitles, audioLanguages := u'.audioLanguages }
  declared : u.declaredCodes.Perm u'.declaredCodes
  audio : ∀ code, code ∈ u.audioLanguages.keys.map targetCode ↔
    code ∈ u'.audioLanguages.keys.map targetCode

/-- The coverage with other spellings of the languages. -/
structure Resolution.Respelled (r r' : Resolution) : Prop where
  perLanguage : List.Forall₂
    (fun c c' => targetCode c.language = targetCode c'.language ∧ c.coverage = c'.coverage)
    r.perLanguage r'.perLanguage
  extras : List.Forall₂ Sidecar.Respelled r.extras r'.extras
  duplicates : List.Forall₂ Sidecar.Respelled r.duplicates r'.duplicates

/-- Targets with the same codes are spellings of each other. -/
theorem forall₂_targetLanguages {p p' : LanguageProfile}
    (hp : p.normalizedTargets = p'.normalizedTargets) :
    List.Forall₂ (fun t t' => targetCode t = targetCode t') p.targetLanguages p'.targetLanguages := by
  have h : List.Forall₂ (· = ·) p.normalizedTargets p'.normalizedTargets := by
    rw [List.forall₂_eq_eq_eq, hp]
  exact List.forall₂_map_right_iff.1 (List.forall₂_map_left_iff.1 h)

/-- What is the same for members that belong together is the same all along. -/
theorem map_eq_map_of_forall₂ {α β γ : Type} {R : α → β → Prop} {f : α → γ} {g : β → γ} {as : List α}
    {bs : List β} (h : List.Forall₂ R as bs) (hfg : ∀ a b, R a b → f a = g b) :
    as.map f = bs.map g := by
  have hmap : List.Forall₂ (· = ·) (as.map f) (bs.map g) := List.rel_map (fun a b hab => hfg a b hab) h
  rwa [List.forall₂_eq_eq_eq] at hmap

section

variable {u u' : MediaUnit} (hdistinct : u.DistinctCodes) (hu : u.Respelled u')
include hdistinct hu

theorem declaredFormat_respelled {t t' : String} (ht : targetCode t = targetCode t') :
    u.declaredFormat (trim t) = u'.declaredFormat (trim t') :=
  MediaUnit.declaredFormat_congr hdistinct hu.declared ht

theorem slotFormat_respelled {t t' : String} (ht : targetCode t = targetCode t') :
    slotFormat u t = slotFormat u' t' := by
  have hfile : u.hasFile = u'.hasFile := by rw [hu.rest]
  rw [slotFormat, slotFormat, declaredFormat_respelled hdistinct hu ht, hfile]

theorem slotGroup?_respelled {t t' : String} (ht : targetCode t = targetCode t') :
    slotGroup? u t = slotGroup? u' t' := by
  rw [slotGroup?, slotGroup?, slotFormat_respelled hdistinct hu ht, ht]

/-- A language is covered in the same way by the same file. -/
theorem coverageOf_respelled {ss ss' : List Sidecar} (hss : List.Forall₂ Sidecar.Respelled ss ss')
    {t t' : String} (ht : targetCode t = targetCode t') :
    coverageOf u ss t = coverageOf u' ss' t' := by
  unfold coverageOf
  rw [slotGroup?_respelled hdistinct hu ht, slotFormat_respelled hdistinct hu ht]
  simp only [Option.map_bind, Function.comp_def, path_find?_respelled hss]

/-- The sidecars of the same groups are wanted. -/
theorem wanted_respelled {p p' : LanguageProfile} (hp : p.normalizedTargets = p'.normalizedTargets) :
    p.targetLanguages.filterMap (slotGroup? u) = p'.targetLanguages.filterMap (slotGroup? u') := by
  have hgroups := map_eq_map_of_forall₂ (forall₂_targetLanguages hp)
    fun _ _ => slotGroup?_respelled hdistinct hu
  have hfilter := congrArg (List.filterMap id) hgroups
  rwa [List.filterMap_map, List.filterMap_map] at hfilter

/-- **The coverage of a unit does not depend on the spelling of the languages.** -/
theorem resolve_respelled {ss ss' : List Sidecar} (hss : List.Forall₂ Sidecar.Respelled ss ss')
    {p p' : LanguageProfile} (hp : p.normalizedTargets = p'.normalizedTargets) :
    (resolve u ss p).Respelled (resolve u' ss' p') := by
  have husable := filter_isWellFormed_respelled hss
  constructor
  · refine List.forall₂_map_left_iff.2 (List.forall₂_map_right_iff.2 ?_)
    exact (forall₂_targetLanguages hp).imp fun t t' ht =>
      ⟨ht, coverageOf_respelled hdistinct hu husable ht⟩
  · rw [resolve, resolve, hp]
    refine List.rel_filter (fun s s' hs => ?_) husable
    show _ = true ↔ _ = true
    rw [hs.code]
  · rw [resolve, resolve, wanted_respelled hdistinct hu hp]
    exact repeatedSidecars_respelled _ husable []

/-- The states of a unit are the same. -/
theorem stateRow_respelled {p p' : LanguageProfile} (hp : p.normalizedTargets = p'.normalizedTargets) :
    stateRow p u = stateRow p' u' := by
  have hfile : u.hasFile = u'.hasFile := by rw [hu.rest]
  have hstates : (pairStates p u).map (·.2) = (pairStates p' u').map (·.2) := by
    rw [pairStates, pairStates, List.map_map, List.map_map]
    exact map_eq_map_of_forall₂ (forall₂_targetLanguages hp) fun t t' ht =>
      congrArg classify (declaredFormat_respelled hdistinct hu ht)
  rw [stateRow, stateRow, hfile, hstates]

omit hdistinct in
/-- Another spelling of the language of a filter finds the same unit. -/
theorem passes_respelled {l l' : String} (hl : targetCode l = targetCode l') :
    u.passes (.audioLanguage l) = u'.passes (.audioLanguage l') := by
  have hpasses (v : MediaUnit) (k : String) :
      v.passes (.audioLanguage k) = true ↔ targetCode k ∈ v.audioLanguages.keys.map targetCode := by
    simp only [MediaUnit.passes, List.any_eq_true, List.mem_map, Language.same, beq_iff_eq]
    rfl
  rw [Bool.eq_iff_iff, hpasses, hpasses, hl]
  exact hu.audio _

end

/-! ### The library -/

/-- **Coverage does not depend on the spelling of the languages.**  Units, their sidecars and the
profile may be written with any spellings of the same languages, as long as each unit declares no
language twice.  Then every unit is covered in the same way by the same files, and the same sidecars are
left over; the numbers of the library are the same, and its work list has the same places; and a filter
on the language of an audio track, in any spelling, finds the same units. -/
theorem coverage_of_respelled {rows rows' : List (MediaUnit × List Sidecar)} {p p' : LanguageProfile}
    (hdistinct : ∀ r ∈ rows, r.1.DistinctCodes)
    (hrows : List.Forall₂
      (fun r r' => r.1.Respelled r'.1 ∧ List.Forall₂ Sidecar.Respelled r.2 r'.2) rows rows')
    (hp : p.normalizedTargets = p'.normalizedTargets) :
    let us := rows.map (·.1)
    let us' := rows'.map (·.1)
    List.Forall₂ (fun r r' => (resolve r.1 r.2 p).Respelled (resolve r'.1 r'.2 p')) rows rows' ∧
    summarize us p = summarize us' p' ∧
    missingPlaces us p = missingPlaces us' p' ∧
    missingPairs us p = (missingPlaces us p).filterMap (pairAt? us p) ∧
    missingPairs us' p' = (missingPlaces us p).filterMap (pairAt? us' p') ∧
    ∀ l l', targetCode l = targetCode l' →
      us.map (·.passes (.audioLanguage l)) = us'.map (·.passes (.audioLanguage l')) := by
  intro us us'
  have hboth : List.Forall₂ (fun r r' => r.1.DistinctCodes ∧ r.1.Respelled r'.1 ∧
      List.Forall₂ Sidecar.Respelled r.2 r'.2) rows rows' :=
    (List.forall₂_and_left _ _).2 ⟨hdistinct, hrows⟩
  have htable : stateTable us p = stateTable us' p' := by
    rw [stateTable, stateTable, List.map_map, List.map_map]
    exact map_eq_map_of_forall₂ hboth fun _ _ h => stateRow_respelled h.1 h.2.1 hp
  have hplaces : missingPlaces us p = missingPlaces us' p' := by
    rw [missingPlaces, missingPlaces, htable]
  refine ⟨hboth.imp fun _ _ h => resolve_respelled h.1 h.2.1 h.2.2 hp, ?_, hplaces,
    missingPairs_eq_filterMap us p, ?_, fun l l' hl => ?_⟩
  · rw [summarize_eq_foldl, summarize_eq_foldl, htable]
  · rw [hplaces]
    exact missingPairs_eq_filterMap us' p'
  · rw [List.map_map, List.map_map]
    exact map_eq_map_of_forall₂ hboth fun _ _ h => passes_respelled h.2.1 hl

/-- German and French in three spellings; the order of the declarations is another one. -/
theorem coverage_of_respelled_german_french :
    let u : MediaUnit :=
      { id := ⟨1⟩, title := "", hasFile := true, subtitles := .ofList [("de", .srt), ("fr", .ass)],
        audioLanguages := .ofList ["en"] }
    let u' : MediaUnit :=
      { u with subtitles := .ofList [("FRE", .ass), ("ger", .srt)], audioLanguages := .ofList ["ENG "] }
    let s (language : String) : Sidecar := ⟨"a.srt", language, "srt", none⟩
    let p (targets : List String) : LanguageProfile :=
      { id := ⟨1⟩, sourceLanguage := "en", targetLanguages := targets }
    u.DistinctCodes ∧ u.Respelled u' ∧ (s "de").Respelled (s " DEU") ∧
    (p ["fr", "de"]).normalizedTargets = (p ["fra ", "Ger"]).normalizedTargets ∧
    (resolve u [s "de"] (p ["fr", "de"])).Respelled (resolve u' [s " DEU"] (p ["fra ", "Ger"])) ∧
    summarize [u] (p ["fr", "de"]) = summarize [u'] (p ["fra ", "Ger"]) := by
  intro u u' s p
  have hdistinct : u.DistinctCodes := by decide +kernel
  have haudio : u.audioLanguages.keys.map targetCode = u'.audioLanguages.keys.map targetCode := by
    decide +kernel
  have hu : u.Respelled u' := ⟨rfl, by decide +kernel, fun code => by rw [haudio]⟩
  have hs : (s "de").Respelled (s " DEU") := ⟨rfl, by decide +kernel⟩
  have hp : (p ["fr", "de"]).normalizedTargets = (p ["fra ", "Ger"]).normalizedTargets := by
    decide +kernel
  have hrows : List.Forall₂
      (fun r r' => r.1.Respelled r'.1 ∧ List.Forall₂ Sidecar.Respelled r.2 r'.2)
      [(u, [s "de"])] [(u', [s " DEU"])] := .cons ⟨hu, .cons hs .nil⟩ .nil
  obtain ⟨hresolve, hsummary, -⟩ := coverage_of_respelled
    (fun r hr => List.mem_singleton.1 hr ▸ hdistinct) hrows hp
  exact ⟨hdistinct, hu, hs, hp, (List.forall₂_cons.1 hresolve).1, hsummary⟩

end SubtitleCoverage
