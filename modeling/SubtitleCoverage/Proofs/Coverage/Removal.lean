import SubtitleCoverage.Proofs.Coverage.Agreement

/-!
# Coverage without a file

The sidecars that fit a slot come in order: the first one is behind it, and the others repeat it.  So when
the sidecars with a path are taken away, the next one that is left moves up.  What fits another slot is
not touched, and the state of a language does not depend on sidecars at all.

## Main definitions

* `LanguageCoverage.fits c s` — a sidecar could be behind a slot.
* `Resolution.Mentions r path` — a resolution has something to do with a path.
* `LanguageCoverage.Removed`, `Resolution.Removed` — what becomes of a slot, and of a resolution, when the
  sidecars with a path are taken away.

## Main results

* `filter_repeatedSidecars` — the repeated sidecars of a group are all of the group but the first.
* `filter_duplicates_of_slotGroup?` — so those that fit a slot are all but the one behind it.
* `repeatedSidecars_filter_sublist` — without some sidecars no other ones become repeated.
* `resolve_removed` — **the next sidecar moves up, and nothing else changes.**
-/

namespace SubtitleCoverage

open Text LanguageProfile

/-- A sidecar has the language of a slot, and the form in which the unit has its subtitles in a file. -/
def LanguageCoverage.fits (c : LanguageCoverage) (s : Sidecar) : Bool :=
  match c.coverage.format.sidecarFormat? with
  | some format => s.normalizedLanguage = targetCode c.language ∧ s.format? = some format
  | none => false

/-- A path is behind a slot, or is that of a sidecar that is left over. -/
def Resolution.Mentions (r : Resolution) (path : String) : Prop :=
  (∃ c ∈ r.perLanguage, c.coverage.sidecarPath = some path) ∨
    ∃ s ∈ r.extras ++ r.duplicates, s.path = path

/-- What becomes of a slot when the sidecars with a path are taken away and some are left.  If the path was
behind it, the first one of those left that fits is now, and is no repeated sidecar any more. -/
structure LanguageCoverage.Removed (path : String) (left : List Sidecar) (r r' : Resolution)
    (c c' : LanguageCoverage) : Prop where
  rest : c' = { c with coverage := { c.coverage with sidecarPath := c'.coverage.sidecarPath } }
  promoted : c.coverage.sidecarPath = some path →
    let next := left.find? fun s => s.isWellFormed && c.fits s
    c'.coverage.sidecarPath = next.map (·.path) ∧
      (r.duplicates.filter (·.path ≠ path)).filter c.fits =
        next.toList ++ r'.duplicates.filter c.fits
  kept : c.coverage.sidecarPath ≠ some path →
    c'.coverage.sidecarPath = c.coverage.sidecarPath ∧
      (r.duplicates.filter (·.path ≠ path)).filter c.fits = r'.duplicates.filter c.fits

/-- What becomes of a resolution when the sidecars with a path are taken away and some are left. -/
structure Resolution.Removed (path : String) (left : List Sidecar) (r r' : Resolution) : Prop where
  slots : List.Forall₂ (LanguageCoverage.Removed path left r r') r.perLanguage r'.perLanguage
  extras : r'.extras = r.extras.filter (·.path ≠ path)
  duplicates : r'.duplicates.Sublist (r.duplicates.filter (·.path ≠ path))

/-! ### Groups of sidecars -/

/-- Whether a sidecar is in a group. -/
def SidecarGroup.has (g : SidecarGroup) (s : Sidecar) : Bool := s.group? = some g

@[simp] theorem SidecarGroup.has_iff {g : SidecarGroup} {s : Sidecar} :
    g.has s = true ↔ s.group? = some g := decide_eq_true_iff

section

variable {wanted : List SidecarGroup} {g : SidecarGroup} {s : Sidecar}

theorem repeatedSidecars_cons_of_none (h : s.group? = none) (seen : List SidecarGroup)
    (ss : List Sidecar) : repeatedSidecars wanted seen (s :: ss) = repeatedSidecars wanted seen ss := by
  rw [repeatedSidecars.eq_def]
  simp only [h]

theorem repeatedSidecars_cons_of_some (h : s.group? = some g) (seen : List SidecarGroup)
    (ss : List Sidecar) : repeatedSidecars wanted seen (s :: ss) =
      if g ∈ seen ∧ g ∈ wanted then s :: repeatedSidecars wanted seen ss
      else repeatedSidecars wanted (g :: seen) ss := by
  rw [repeatedSidecars.eq_def]
  simp only [h]

/-- **The repeated sidecars of a group are all of the group but the first**, or all of it if the first has
been seen. -/
theorem filter_repeatedSidecars (hg : g ∈ wanted) (ss : List Sidecar) : ∀ seen : List SidecarGroup,
    (repeatedSidecars wanted seen ss).filter g.has =
      if g ∈ seen then ss.filter g.has else (ss.filter g.has).tail := by
  induction ss with
  | nil => intro seen; simp [repeatedSidecars]
  | cons s ss ih =>
    intro seen
    cases hs : s.group? with
    | none => rw [repeatedSidecars_cons_of_none hs, ih, List.filter_cons_of_neg (by simp [hs])]
    | some g' =>
      rw [repeatedSidecars_cons_of_some hs]
      by_cases hgg : g' = g
      · subst hgg
        have hpos : g'.has s = true := SidecarGroup.has_iff.2 hs
        by_cases hseen : g' ∈ seen
        · rw [if_pos ⟨hseen, hg⟩, if_pos hseen, List.filter_cons_of_pos hpos, ih, if_pos hseen,
            List.filter_cons_of_pos hpos]
        · rw [if_neg fun h => hseen h.1, if_neg hseen, ih, if_pos List.mem_cons_self,
            List.filter_cons_of_pos hpos, List.tail_cons]
      · -- a sidecar of another group, which makes no difference
        have hneg : ¬g.has s = true := by
          rw [SidecarGroup.has_iff, hs]
          exact fun h => hgg (Option.some.inj h)
        have hseen : g ∈ g' :: seen ↔ g ∈ seen := by
          rw [List.mem_cons, or_iff_right (Ne.symm hgg)]
        rw [List.filter_cons_of_neg hneg]
        split
        · rw [List.filter_cons_of_neg hneg, ih]
        · rw [ih]
          simp only [hseen]

/-- **Without some sidecars no other ones become repeated.** -/
theorem repeatedSidecars_filter_sublist (keep : Sidecar → Bool) (ss : List Sidecar) :
    ∀ {seen seen' : List SidecarGroup}, seen' ⊆ seen →
      (repeatedSidecars wanted seen' (ss.filter keep)).Sublist
        ((repeatedSidecars wanted seen ss).filter keep) := by
  induction ss with
  | nil => intro seen seen' _; exact .slnil
  | cons s ss ih =>
    intro seen seen' hseen
    cases hs : s.group? with
    | none =>
      rw [repeatedSidecars_cons_of_none hs]
      by_cases hkeep : keep s = true
      · rw [List.filter_cons_of_pos hkeep, repeatedSidecars_cons_of_none hs]
        exact ih hseen
      · rw [List.filter_cons_of_neg hkeep]
        exact ih hseen
    | some g =>
      rw [repeatedSidecars_cons_of_some hs]
      by_cases hkeep : keep s = true
      · rw [List.filter_cons_of_pos hkeep, repeatedSidecars_cons_of_some hs]
        by_cases hrepeated : g ∈ seen ∧ g ∈ wanted
        · rw [if_pos hrepeated, List.filter_cons_of_pos hkeep]
          split
          · exact (ih hseen).cons_cons s
          · exact (ih (List.cons_subset.2 ⟨hrepeated.1, hseen⟩)).cons s
        · rw [if_neg hrepeated, if_neg fun h => hrepeated ⟨hseen h.1, h.2⟩]
          exact ih (List.cons_subset_cons g hseen)
      · rw [List.filter_cons_of_neg hkeep]
        split
        · rw [List.filter_cons_of_neg hkeep]
          exact ih hseen
        · exact ih (List.subset_cons_of_subset g hseen)

theorem repeatedSidecars_subset (seen : List SidecarGroup) (ss : List Sidecar) :
    repeatedSidecars wanted seen ss ⊆ ss := by
  induction ss generalizing seen with
  | nil => exact List.Subset.refl _
  | cons s ss ih =>
    cases hs : s.group? with
    | none =>
      rw [repeatedSidecars_cons_of_none hs]
      exact List.subset_cons_of_subset s (ih seen)
    | some g =>
      rw [repeatedSidecars_cons_of_some hs]
      split
      · exact List.cons_subset_cons s (ih seen)
      · exact List.subset_cons_of_subset s (ih _)

end

/-! ### Slots -/

section

variable {u : MediaUnit} {t : String} {g : SidecarGroup} (ss : List Sidecar)

theorem sidecarPath_of_slotGroup? (h : slotGroup? u t = some g) :
    (coverageOf u ss t).sidecarPath = (ss.filter g.has).head?.map (·.path) := by
  rw [List.head?_filter, coverageOf, h]
  rfl

theorem sidecarPath_of_slotGroup?_eq_none (h : slotGroup? u t = none) :
    (coverageOf u ss t).sidecarPath = none := by
  rw [coverageOf, h]
  rfl

/-- The sidecars that fit a slot are those of its group. -/
theorem fits_of_slotGroup? (h : slotGroup? u t = some g) :
    LanguageCoverage.fits ⟨t, coverageOf u ss t⟩ = g.has := by
  obtain ⟨format, hformat, rfl⟩ := Option.map_eq_some_iff.1 h
  funext s
  rw [Bool.eq_iff_iff, SidecarGroup.has_iff, Sidecar.group?, Option.map_eq_some_iff]
  simp only [LanguageCoverage.fits, coverageOf, hformat, decide_eq_true_eq, SidecarGroup.mk.injEq]
  constructor
  · rintro ⟨hlanguage, hs⟩
    exact ⟨format, hs, hlanguage, rfl⟩
  · rintro ⟨_, hs, hlanguage, rfl⟩
    exact ⟨hlanguage, hs⟩

theorem fits_of_slotGroup?_eq_none (h : slotGroup? u t = none) :
    LanguageCoverage.fits ⟨t, coverageOf u ss t⟩ = fun _ => false := by
  have hformat : (slotFormat u t).sidecarFormat? = none := Option.map_eq_none_iff.1 h
  funext s
  simp only [LanguageCoverage.fits, coverageOf, hformat]

end

/-! ### Resolutions -/

section

variable (u : MediaUnit) (sidecars : List Sidecar) (p : LanguageProfile)

/-- Only paths of sidecars are mentioned. -/
theorem exists_of_mentions {path : String} (h : (resolve u sidecars p).Mentions path) :
    ∃ s ∈ sidecars, s.path = path := by
  rcases h with ⟨c, hc, hpath⟩ | ⟨s, hs, hpath⟩
  · obtain ⟨t, -, rfl⟩ := List.mem_map.1 hc
    obtain ⟨s, hs, hpath⟩ := Option.map_eq_some_iff.1 hpath
    obtain ⟨g, -, hfound⟩ := Option.bind_eq_some_iff.1 hs
    exact ⟨s, List.mem_of_mem_filter (List.mem_of_find?_eq_some hfound), hpath⟩
  · refine ⟨s, ?_, hpath⟩
    rcases List.mem_append.1 hs with hs | hs
    · exact List.mem_of_mem_filter (List.mem_of_mem_filter hs)
    · exact List.mem_of_mem_filter (repeatedSidecars_subset _ _ hs)

/-- The repeated sidecars that fit a slot are all that fit it but the first, which is behind it. -/
theorem filter_duplicates_of_slotGroup? {t : String} {g : SidecarGroup} (ht : t ∈ p.targetLanguages)
    (h : slotGroup? u t = some g) : (resolve u sidecars p).duplicates.filter g.has =
      ((sidecars.filter (·.isWellFormed)).filter g.has).tail := by
  have hwanted : g ∈ p.targetLanguages.filterMap (slotGroup? u) := List.mem_filterMap.2 ⟨t, ht, h⟩
  rw [resolve, filter_repeatedSidecars hwanted, if_neg List.not_mem_nil]

/-- **The next sidecar moves up** where the path was behind a slot, and no other slot changes. -/
theorem slot_removed (path : String) {t : String} (ht : t ∈ p.targetLanguages) :
    let left := sidecars.filter (·.path ≠ path)
    LanguageCoverage.Removed path left (resolve u sidecars p) (resolve u left p)
      ⟨t, coverageOf u (sidecars.filter (·.isWellFormed)) t⟩
      ⟨t, coverageOf u (left.filter (·.isWellFormed)) t⟩ := by
  intro left
  let usable := sidecars.filter (·.isWellFormed)
  let keep : Sidecar → Bool := fun s => s.path ≠ path
  cases hslot : slotGroup? u t with
  | none =>
    refine ⟨rfl, fun h => ?_, fun _ => ⟨?_, ?_⟩⟩
    · rw [sidecarPath_of_slotGroup?_eq_none _ hslot] at h
      contradiction
    · rw [sidecarPath_of_slotGroup?_eq_none _ hslot, sidecarPath_of_slotGroup?_eq_none _ hslot]
    · rw [fits_of_slotGroup?_eq_none _ hslot, List.filter_false, List.filter_false]
  | some g =>
    -- what fits the slot now is what did before, without the path
    have hleft : (left.filter (·.isWellFormed)).filter g.has = (usable.filter g.has).filter keep := by
      rw [List.filter_comm Sidecar.isWellFormed keep, List.filter_comm g.has keep]
    have hnext : left.find? (fun s => s.isWellFormed && g.has s) =
        ((usable.filter g.has).filter keep).head? := by
      rw [← hleft, List.filter_filter, List.head?_filter]
      simp only [Bool.and_comm]
    have hbefore : ((resolve u sidecars p).duplicates.filter keep).filter g.has =
        (usable.filter g.has).tail.filter keep := by
      rw [List.filter_comm, filter_duplicates_of_slotGroup? u sidecars p ht hslot]
    have hafter : (resolve u left p).duplicates.filter g.has =
        ((usable.filter g.has).filter keep).tail := by
      rw [filter_duplicates_of_slotGroup? u left p ht hslot, hleft]
    refine ⟨rfl, fun h => ?_, fun h => ?_⟩
    · rw [sidecarPath_of_slotGroup? _ hslot] at h ⊢
      rw [fits_of_slotGroup? _ hslot, hnext, hleft, hbefore, hafter]
      cases hgroup : usable.filter g.has with
      | nil => rw [hgroup] at h; contradiction
      | cons first rest =>
        rw [hgroup] at h
        have hpath : ¬keep first = true := by simpa [keep] using h
        rw [List.filter_cons_of_neg hpath, List.tail_cons]
        exact ⟨rfl, by cases rest.filter keep <;> rfl⟩
    · rw [sidecarPath_of_slotGroup? _ hslot] at h ⊢
      rw [sidecarPath_of_slotGroup? _ hslot, fits_of_slotGroup? _ hslot, hleft, hbefore, hafter]
      cases hgroup : usable.filter g.has with
      | nil => exact ⟨rfl, rfl⟩
      | cons first rest =>
        rw [hgroup] at h
        have hpath : keep first = true := by simpa [keep] using h
        rw [List.filter_cons_of_pos hpath]
        exact ⟨rfl, rfl⟩

/-- **The next sidecar moves up, and nothing else changes**, when the sidecars with a path are taken away:
each slot behind which the path was has the next sidecar that fits, which is no repeated one any more; the
other slots are as they were, and so are the extra sidecars but for those with the path.  The path is not
mentioned any more. -/
theorem resolve_removed (path : String) :
    let left := sidecars.filter (·.path ≠ path)
    (resolve u sidecars p).Removed path left (resolve u left p) ∧
      ¬(resolve u left p).Mentions path := by
  intro left
  let keep : Sidecar → Bool := fun s => s.path ≠ path
  refine ⟨⟨?_, ?_, ?_⟩, fun h => ?_⟩
  · refine List.forall₂_map_left_iff.2 (List.forall₂_map_right_iff.2 (List.forall₂_same.2 ?_))
    exact fun t ht => slot_removed u sidecars p path ht
  · show ((sidecars.filter keep).filter _).filter _ = ((sidecars.filter _).filter _).filter keep
    rw [List.filter_comm _ keep, List.filter_comm _ keep]
  · show (repeatedSidecars _ [] ((sidecars.filter keep).filter _)).Sublist _
    rw [List.filter_comm _ keep]
    exact repeatedSidecars_filter_sublist keep _ (List.Subset.refl _)
  · obtain ⟨s, hs, hpath⟩ := exists_of_mentions u left p h
    exact of_decide_eq_true (List.mem_filter.1 hs).2 hpath

end

/-- The file behind two spellings of German is removed, and with it a French one of that path. -/
example :
    let u : MediaUnit :=
      { id := ⟨1⟩, title := "", hasFile := true, subtitles := .ofList [("de", .srt)] }
    let s (path language : String) : Sidecar := ⟨path, language, "srt", none⟩
    let p : LanguageProfile := { id := ⟨1⟩, sourceLanguage := "en", targetLanguages := ["deu", "de"] }
    let ss := [s "a" "de", s "a" "fr", s "b" "ger", s "c" "DE", s "d" "fr"]
    let r := resolve u (ss.filter (·.path ≠ "a")) p
    (resolve u ss p).perLanguage.map (·.coverage.sidecarPath) = [some "a", some "a"] ∧
      r.perLanguage.map (·.coverage.sidecarPath) = [some "b", some "b"] ∧
      r.duplicates.map (·.path) = ["c"] ∧ r.extras.map (·.path) = ["d"] := by decide +kernel

end SubtitleCoverage
