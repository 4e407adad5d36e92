import Mathlib
import SubtitleCoverage.Proofs.Coverage.Agreement
import SubtitleCoverage.Proofs.Library.CurrentPage
import SubtitleCoverage.Proofs.Listing.Answer

/-!
# Leafing through a view

A view that is asked for its rows on page 1, then on page 2 and so on up to its last page shows the
answer to its query, each unit that is loaded no more often than it was loaded.  The totals above
the list are counted by a pass of their own over all units; while the query keeps them all, the rows
of all pages add up to the totals.

## Main definitions

* `LibraryView.pageNumbers` — the numbers of the pages that a view has.
* `LibraryView.leaf` — the rows on some pages that are gone to one after the other.

## Main results

* `leaf_eq_flatMap` — the pages gone to before do not matter for what a page shows.
* `leaf_pageNumbers` — all pages together show what matches the query.
* `matching_perm_units` — a query that asks for nothing keeps every unit.
* `rows_of_all_pages` — **all pages together show the answer to the query once, and add up to the
  totals.**
-/

namespace SubtitleCoverage

open Text

namespace LibraryView

variable {v : LibraryView} {s : SelectionStore MediaUnitId}

/-! ### One page after the other -/

/-- The numbers of the pages that a view has. -/
def pageNumbers (v : LibraryView) : List UInt64 :=
  (List.range v.pageInfo.pageCount.toNat).map fun k => UInt64.ofNat (k + 1)

/-- The rows on some pages, which are gone to one after the other, and the view after them. -/
def leaf (v : LibraryView) (s : SelectionStore MediaUnitId) : List UInt64 → LibraryView × List Row
  | [] => (v, [])
  | page :: pages =>
    let (v, shown) := (v.setPage page).rows s
    let (v, others) := v.leaf s pages
    (v, shown ++ others)

/-- A unit as the view shows it. -/
def rowOf (v : LibraryView) (s : SelectionStore MediaUnitId) (u : MediaUnit) : Row :=
  ⟨u, v.coverage u, s.isSelected v.scope u.id⟩

/-- A page that has been gone to is there, so looking at it does not move the view. -/
theorem rows_setPage_fst (v : LibraryView) (s : SelectionStore MediaUnitId) (page : UInt64) :
    ((v.setPage page).rows s).1 = v.setPage page := by
  have hclamp := Paginator.clamp_of_inRange (v.paginator.inRange_setPage page v.length)
  show { v with paginator := (v.paginator.setPage page v.length).clamp v.length } = v.setPage page
  rw [hclamp]
  rfl

/-- Where a view goes does not depend on the page it is on. -/
theorem setPage_setPage (v : LibraryView) (page page' : UInt64) :
    (v.setPage page).setPage page' = v.setPage page' := by
  show { v with paginator :=
    (v.paginator.setPage page v.length).setPage page' v.length } = v.setPage page'
  rw [Paginator.setPage_setPage]
  rfl

/-- **The pages gone to before do not matter for what a page shows.** -/
theorem leaf_eq_flatMap (s : SelectionStore MediaUnitId) (pages : List UInt64) :
    ∀ v : LibraryView, (v.leaf s pages).2 = pages.flatMap fun page => ((v.setPage page).rows s).2 := by
  induction pages with
  | nil =>
    intro v
    rfl
  | cons page pages ih =>
    intro v
    rw [List.flatMap_cons]
    show ((v.setPage page).rows s).2 ++ (((v.setPage page).rows s).1.leaf s pages).2 = _
    rw [rows_setPage_fst, ih]
    simp only [setPage_setPage]

/-- A page of a view shows the units on that page of its list. -/
theorem rows_setPage {page : UInt64} (h : v.units.length < 2 ^ 63) (hpage : 1 ≤ page)
    (hle : page ≤ v.pageInfo.pageCount) :
    ((v.setPage page).rows s).2 =
      (v.paginator.pageAt page.toNat v.matching).map (v.rowOf s) := by
  have hle' : v.matching.length ≤ v.units.length := by
    rw [length_matching]
    exact List.length_filter_le ..
  have hunits : (v.setPage page).pageUnits.2 = v.paginator.pageAt page.toNat v.matching :=
    v.paginator.slice_setPage (Nat.lt_of_le_of_lt hle' h) hpage hle
  show (v.setPage page).pageUnits.2.map (v.rowOf s) = _
  rw [hunits]

/-- **All pages together show what matches the query**, in order. -/
theorem leaf_pageNumbers (h : v.units.length < 2 ^ 63) :
    (v.leaf s v.pageNumbers).2 = v.matching.map (v.rowOf s) := by
  have hle : v.matching.length ≤ v.units.length := by
    rw [length_matching]
    exact List.length_filter_le ..
  have hlength : v.matching.length < 2 ^ 64 := by omega
  have hpages := v.paginator.flatMap_pageAt hlength
  conv => rhs; rw [← hpages, List.map_flatMap]
  rw [leaf_eq_flatMap, pageNumbers, List.flatMap_map]
  refine List.flatMap_congr fun k hk => ?_
  have hcount := v.pageInfo.pageCount.toNat_lt
  have hk := List.mem_range.1 hk
  have hnumber : (UInt64.ofNat (k + 1)).toNat = k + 1 := Nat.mod_eq_of_lt (by omega)
  have hone : 1 ≤ UInt64.ofNat (k + 1) := by
    rw [UInt64.le_iff_toNat_le, hnumber]
    exact Nat.succ_pos k
  have hlast : UInt64.ofNat (k + 1) ≤ v.pageInfo.pageCount := by
    rw [UInt64.le_iff_toNat_le, hnumber]
    exact hk
  rw [rows_setPage h hone hlast, hnumber]

/-! ### The totals -/

/-- A query that asks for nothing keeps every unit, and only puts them in order. -/
theorem matching_perm_units (hfilters : v.query.filters = [])
    (hsearch : trim v.query.search = "") : v.matching.Perm v.units := by
  have hkeeps : v.units.filter v.query.keeps = v.units := by
    refine List.filter_eq_self.2 fun u _ => (keeps_iff_matches v.query u).2 ⟨?_, ?_⟩
    · rw [hfilters]
      exact fun _ hf => absurd hf List.not_mem_nil
    · exact fun h => absurd hsearch h
  rw [matching, ListQuery.apply, hkeeps]
  exact ListQuery.arrange_perm v.query.sort v.units

/-- What the rows with a file show of a state is its total over the units, whatever their order. -/
theorem sum_count_rows {p : LanguageProfile} {us : List MediaUnit} (hprofile : v.profile = some p)
    (hperm : us.Perm v.units) (state : CoverageState) :
    (((us.map (v.rowOf s)).filter (·.unit.hasFile)).map (·.resolution.count state)).sum =
      v.summary.total state := by
  have hcount : ∀ u, (v.rowOf s u).resolution.count state =
      (resolve u (v.sidecarsOf u.id) p).count state := by
    intro u
    show (v.coverage u).count state = _
    rw [coverage, hprofile]
  have hsummary : v.summary.total state =
      ((v.units.filter (·.hasFile)).map fun u =>
        (resolve u (v.sidecarsOf u.id) p).count state).sum := by
    have hrows := countState_rows (v.units.map fun u => (u, v.sidecarsOf u.id)) p state
    rw [List.map_map, List.filter_map, List.map_map] at hrows
    rw [summary, hprofile]
    show (summarize v.units p).total state = _
    rw [total_summarize]
    refine Eq.trans ?_ hrows
    rw [show Prod.fst ∘ (fun u : MediaUnit => (u, v.sidecarsOf u.id)) = id from rfl, List.map_id]
  rw [hsummary, List.filter_map, List.map_map]
  simp only [Function.comp_def, hcount]
  exact ((hperm.filter _).map _).sum_eq

/-- The rows without a file are as many as the units without one. -/
theorem countP_rows {p : LanguageProfile} {us : List MediaUnit} (hprofile : v.profile = some p)
    (hperm : us.Perm v.units) :
    ((us.map (v.rowOf s)).countP fun r => !r.unit.hasFile) = v.summary.unitsWithoutFile := by
  rw [summary, hprofile]
  show _ = (summarize v.units p).unitsWithoutFile
  rw [unitsWithoutFile_summarize, List.countP_map]
  exact hperm.countP_eq _

/-- **All pages together show the answer to the query once, and add up to the totals.**  The pages
from the first to the last have the units at the positions that answer the query, in its order, each
row with the coverage of its unit and its mark in the selection.  If there is a profile and the query
has neither a filter nor a search text, then for each state the rows with a file add up to its total,
and the rows without a file are as many as the totals say, whatever sidecars there are.  The bound on
the units is beyond any list that a memory holds. -/
theorem rows_of_all_pages (v : LibraryView) (s : SelectionStore MediaUnitId)
    (h : v.units.length < 2 ^ 63) :
    let shown := (v.leaf s v.pageNumbers).2
    (∃ ps, v.query.IsAnswer v.units ps ∧ shown.map (·.unit) = pick v.units ps) ∧
    (∀ r ∈ shown, r = v.rowOf s r.unit) ∧
    ∀ p, v.profile = some p → v.query.filters = [] → trim v.query.search = "" →
      (∀ state, ((shown.filter (·.unit.hasFile)).map (·.resolution.count state)).sum =
        v.summary.total state) ∧
      (shown.countP fun r => !r.unit.hasFile) = v.summary.unitsWithoutFile := by
  intro shown
  have hshown : shown = v.matching.map (v.rowOf s) := leaf_pageNumbers h
  rw [hshown]
  refine ⟨?_, ?_, ?_⟩
  · have hanswer := ListQuery.isAnswer_arranged v.query v.units
    refine ⟨_, hanswer, ?_⟩
    rw [← hanswer.apply_eq, List.map_map]
    exact List.map_id _
  · intro r hr
    obtain ⟨u, -, rfl⟩ := List.mem_map.1 hr
    rfl
  · intro p hprofile hfilters hsearch
    have hperm := matching_perm_units hfilters hsearch
    exact ⟨fun state => sum_count_rows hprofile hperm state, countP_rows hprofile hperm⟩

/-- Three units on two pages, the last one on a page of its own: one of them has no file, and the
other two miss three of four languages. -/
theorem rows_of_all_pages_two_pages :
    let p : LanguageProfile := { id := ⟨1⟩, sourceLanguage := "en", targetLanguages := ["de", "fr"] }
    let v : LibraryView := {
      scope := "library", profileId := ⟨1⟩, profile := some p, paginator := .ofSize 2
      units := [
        { id := ⟨7⟩, title := "B", hasFile := true, subtitles := .ofList [("de", .ass)] },
        { id := ⟨8⟩, title := "C" }, { id := ⟨9⟩, title := "A", hasFile := true }] }
    let shown := (v.leaf .empty v.pageNumbers).2
    v.units.length < 2 ^ 63 ∧ v.profile = some p ∧ v.query.filters = [] ∧
      trim v.query.search = "" ∧ v.pageNumbers = [1, 2] ∧ (∃ ps, v.query.IsAnswer v.units ps) ∧
      shown.map (·.unit.id.value) = [9, 7, 8] ∧
      ((shown.filter (·.unit.hasFile)).map (·.resolution.count .missing)).sum = 3 ∧
      (shown.countP fun r => !r.unit.hasFile) = 1 := by
  intro p v shown
  have hlength : v.units.length < 2 ^ 63 := by decide
  obtain ⟨⟨ps, hanswer, hunits⟩, -, hsums⟩ := rows_of_all_pages v .empty hlength
  obtain ⟨hcount, hwithout⟩ := hsums p rfl rfl (by cbv)
  have hids : shown.map (·.unit.id.value) = v.matching.map (·.id.value) := by
    rw [matching, hanswer.apply_eq, ← hunits, List.map_map]
    rfl
  refine ⟨hlength, rfl, rfl, by cbv, by cbv, ⟨ps, hanswer⟩, ?_, ?_, ?_⟩
  · rw [hids]
    cbv
  · rw [hcount]
    cbv
  · rw [hwithout]
    cbv

end LibraryView

end SubtitleCoverage
