import SubtitleCoverage.Proofs.Coverage.Agreement
import SubtitleCoverage.Proofs.Positions

/-!
# The states of the library, place by place

The numbers of the library and its work list depend on units and profile only by a table: for each unit
with a file the states of the target languages, in the order of the profile.  The work list has the
pairs at the places of the table that are missing.

## Main definitions

* `stateTable` — the states of all pairs.
* `missingPlaces` — the places without subtitles.

## Main results

* `summarize_eq_foldl` — the numbers are those of the table.
* `missingPairs_eq_filterMap` — the work list has the pairs at the missing places.
-/

namespace SubtitleCoverage

open Text

/-- The states of the target languages of a unit with a file. -/
def stateRow (p : LanguageProfile) (u : MediaUnit) : Option (List CoverageState) :=
  if u.hasFile then some ((pairStates p u).map (·.2)) else none

/-- The states of all pairs, unit by unit. -/
def stateTable (us : List MediaUnit) (p : LanguageProfile) : List (Option (List CoverageState)) :=
  us.map (stateRow p)

/-- One more row of the table. -/
def Summary.addRow (s : Summary) : Option (List CoverageState) → Summary
  | some states => states.foldl Summary.addState s
  | none => { s with unitsWithoutFile := s.unitsWithoutFile + 1 }

/-- The numbers of the library are those of the table. -/
theorem summarize_eq_foldl (us : List MediaUnit) (p : LanguageProfile) :
    summarize us p = (stateTable us p).foldl Summary.addRow {} := by
  rw [summarize, stateTable, List.foldl_map]
  congr 1
  funext s u
  unfold Summary.addUnit stateRow
  split <;> rfl

/-- The places of a table that are missing: the position of the unit and that of the language. -/
def missingIn (table : List (Option (List CoverageState))) : List (Nat × Nat) :=
  table.zipIdx.flatMap fun row =>
    ((row.1.getD []).zipIdx.filter fun e => e.1 = .missing).map fun e => (row.2, e.2)

/-- The places without subtitles. -/
def missingPlaces (us : List MediaUnit) (p : LanguageProfile) : List (Nat × Nat) :=
  missingIn (stateTable us p)

/-- The unit and the target language at a place. -/
def pairAt? (us : List MediaUnit) (p : LanguageProfile) (place : Nat × Nat) : Option MissingPair :=
  us[place.1]?.bind fun u => p.targetLanguages[place.2]?.map fun t => ⟨u.id, t⟩

/-- The positions at which a test on what entries are mapped to succeeds lead to these entries. -/
theorem pick_zipIdx_filter {α β : Type} (f : α → β) (q : β → Bool) (xs : List α) :
    pick xs (((xs.map f).zipIdx.filter fun e => q e.1).map (·.2)) = xs.filter fun a => q (f a) := by
  rw [List.zipIdx_map, List.filter_map, List.map_map]
  have hpick : pick xs ((xs.zipIdx.filter fun e => q (f e.1)).map (·.2)) =
      (xs.zipIdx.filter fun e => q (f e.1)).map (·.1) :=
    pick_map_snd fun e he => List.mem_zipIdx_iff_getElem?.1 (List.mem_filter.1 he).1
  have hfilter := List.filter_map (f := Prod.fst) (p := fun a => q (f a)) (l := xs.zipIdx)
  rw [List.zipIdx_map_fst] at hfilter
  exact hpick.trans hfilter.symm

/-- The missing pairs of a unit; one without a file has none. -/
def missingPairsOf (p : LanguageProfile) (u : MediaUnit) : List MissingPair :=
  if u.hasFile then ((pairStates p u).filter fun e => e.2 = .missing).map fun e => ⟨u.id, e.1⟩ else []

theorem missingPairs_eq_flatMap (us : List MediaUnit) (p : LanguageProfile) :
    missingPairs us p = us.flatMap (missingPairsOf p) := by
  induction us with
  | nil => rfl
  | cons u us ih =>
    rw [List.flatMap_cons, ← ih]
    by_cases hfile : u.hasFile = true
    · rw [missingPairs, List.filter_cons_of_pos hfile, List.flatMap_cons, missingPairsOf, if_pos hfile]
      rfl
    · rw [missingPairs, List.filter_cons_of_neg hfile, missingPairsOf, if_neg hfile, List.nil_append]
      rfl

/-- The missing places of a unit lead to its missing pairs. -/
theorem filterMap_pairAt?_row {us : List MediaUnit} {u : MediaUnit} {i : Nat} (p : LanguageProfile)
    (hu : us[i]? = some u) :
    ((((stateRow p u).getD []).zipIdx.filter fun e => e.1 = .missing).map
        fun e => (i, e.2)).filterMap (pairAt? us p) = missingPairsOf p u := by
  have hpair (j : Nat) :
      pairAt? us p (i, j) = (pairStates p u)[j]?.map fun e => ⟨u.id, e.1⟩ := by
    rw [pairAt?, hu, pairStates, List.getElem?_map, Option.map_map]
    rfl
  unfold missingPairsOf stateRow
  split
  · have hpick := pick_zipIdx_filter (fun e => e.2) (fun state => decide (state = .missing))
      (pairStates p u)
    rw [← hpick, pick, List.map_filterMap, List.filterMap_map, List.filterMap_map]
    exact List.filterMap_congr fun e _ => hpair e.2
  · rfl

/-- **The work list has the pairs at the missing places**, in order. -/
theorem missingPairs_eq_filterMap (us : List MediaUnit) (p : LanguageProfile) :
    missingPairs us p = (missingPlaces us p).filterMap (pairAt? us p) := by
  have hplaces : (missingPlaces us p).filterMap (pairAt? us p) =
      us.zipIdx.flatMap fun e => missingPairsOf p e.1 := by
    rw [missingPlaces, missingIn, stateTable, List.zipIdx_map, List.flatMap_map, List.filterMap_flatMap]
    exact List.flatMap_congr fun e he => filterMap_pairAt?_row p (List.mem_zipIdx_iff_getElem?.1 he)
  have hfst := List.flatMap_map (·.1) (missingPairsOf p) us.zipIdx
  rw [List.zipIdx_map_fst] at hfst
  rw [missingPairs_eq_flatMap, hplaces, hfst]

end SubtitleCoverage
