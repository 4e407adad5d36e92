import Mathlib
import SubtitleCoverage.Coverage.Summary

/-!
# Totals and badges

The library is counted by passes of its own, which look at what units declare and never at their
sidecars, while the rows of a listing show what `resolve` makes of each unit.  For a unit with a
file both see the same pairs of a language and a state, so every total of the library is a sum over
its rows.

## Main definitions

* `Summary.total s state` — the total of one state.
* `Resolution.missingLanguages r` — the target languages that a row shows as missing.

## Main results

* `perLanguage_eq_pairStates` — the pairs of a unit with a file are the entries of its resolution.
* `total_summarize` — one pass finds for each state what counting that state alone finds.
* `summary_agrees_with_rows` — **totals, work list and rows agree**, for any units, profile and
  sidecars.
-/

namespace SubtitleCoverage

open Text

/-! ### One unit -/

/-- The target languages that have no subtitles, in the order of the profile. -/
def Resolution.missingLanguages (r : Resolution) : List String :=
  (r.perLanguage.filter fun c => c.coverage.state = .missing).map (·.language)

theorem slotFormat_of_hasFile {u : MediaUnit} (h : u.hasFile = true) (target : String) :
    slotFormat u target = u.declaredFormat (trim target) := by
  rw [slotFormat, if_pos h]

/-- A resolution has one entry for each target language, whatever the unit and its sidecars. -/
theorem map_language_perLanguage (u : MediaUnit) (sidecars : List Sidecar) (p : LanguageProfile) :
    (resolve u sidecars p).perLanguage.map (·.language) = p.targetLanguages := by
  simp only [resolve, List.map_map]
  exact List.map_id' _

/-- **The pairs of a unit with a file are the entries of its resolution.**  Sidecars decide which
file is behind a language, never its state. -/
theorem perLanguage_eq_pairStates {u : MediaUnit} (h : u.hasFile = true) (sidecars : List Sidecar)
    (p : LanguageProfile) :
    (resolve u sidecars p).perLanguage.map (fun c => (c.language, c.coverage.state)) =
      pairStates p u := by
  simp only [resolve, pairStates, List.map_map]
  refine List.map_congr_left fun t _ => ?_
  simp only [Function.comp_apply, coverageOf, slotFormat_of_hasFile h]

theorem count_resolve {u : MediaUnit} (h : u.hasFile = true) (sidecars : List Sidecar)
    (p : LanguageProfile) (state : CoverageState) :
    (resolve u sidecars p).count state = (pairStates p u).countP fun e => e.2 = state := by
  rw [← perLanguage_eq_pairStates h sidecars p, List.countP_map]
  rfl

theorem missingLanguages_resolve {u : MediaUnit} (h : u.hasFile = true) (sidecars : List Sidecar)
    (p : LanguageProfile) :
    (resolve u sidecars p).missingLanguages =
      ((pairStates p u).filter fun e => e.2 = .missing).map (·.1) := by
  rw [← perLanguage_eq_pairStates h sidecars p, List.filter_map, List.map_map]
  rfl

@[simp] theorem length_pairStates (p : LanguageProfile) (u : MediaUnit) :
    (pairStates p u).length = p.targetLanguages.length := by simp [pairStates]

/-! ### One state of the library -/

theorem countState_cons (state : CoverageState) (u : MediaUnit) (us : List MediaUnit)
    (p : LanguageProfile) :
    countState state (u :: us) p =
      (if u.hasFile then (pairStates p u).countP fun e => e.2 = state else 0) +
        countState state us p := by
  unfold countState
  cases h : u.hasFile with
  | false => rw [List.filter_cons_of_neg (by simp [h]), if_neg (by simp), Nat.zero_add]
  | true =>
    rw [List.filter_cons_of_pos (by simp [h]), List.flatMap_cons, List.countP_append, if_pos rfl]

/-- The missing pairs are as many as they are counted. -/
theorem length_missingPairs (us : List MediaUnit) (p : LanguageProfile) :
    (missingPairs us p).length = countMissing us p := by
  rw [missingPairs, countMissing, countState, List.length_flatMap, List.countP_flatMap]
  congr 1
  refine List.map_congr_left fun u _ => ?_
  rw [List.length_map, ← List.countP_eq_length_filter]
  rfl

/-! ### All states in one pass -/

namespace Summary

/-- The total of one state. -/
def total (s : Summary) : CoverageState → Nat
  | .missing => s.missing
  | .upgradeable => s.upgradeable
  | .optimal => s.optimal

theorem pairs_eq_total (s : Summary) :
    s.pairs = s.total .missing + s.total .upgradeable + s.total .optimal := rfl

theorem total_addState (s : Summary) (state other : CoverageState) :
    (s.addState state).total other = s.total other + if state = other then 1 else 0 := by
  cases state <;> cases other <;> rfl

@[simp] theorem unitsWithoutFile_addState (s : Summary) (state : CoverageState) :
    (s.addState state).unitsWithoutFile = s.unitsWithoutFile := by cases state <;> rfl

theorem total_foldl_addState (state : CoverageState) (found : List CoverageState) :
    ∀ s : Summary, (found.foldl addState s).total state =
      s.total state + found.countP fun other => other = state := by
  induction found with
  | nil => intro s; rfl
  | cons other found ih =>
    intro s
    rw [List.foldl_cons, ih, total_addState, List.countP_cons]
    simp only [decide_eq_true_eq]
    omega

theorem unitsWithoutFile_foldl_addState (found : List CoverageState) :
    ∀ s : Summary, (found.foldl addState s).unitsWithoutFile = s.unitsWithoutFile := by
  induction found with
  | nil => intro s; rfl
  | cons other found ih => intro s; rw [List.foldl_cons, ih, unitsWithoutFile_addState]

theorem total_addUnit (p : LanguageProfile) (s : Summary) (u : MediaUnit) (state : CoverageState) :
    (addUnit p s u).total state =
      s.total state + if u.hasFile then (pairStates p u).countP fun e => e.2 = state else 0 := by
  unfold addUnit
  split
  · rw [total_foldl_addState, List.countP_map]
    rfl
  · cases state <;> rfl

theorem unitsWithoutFile_addUnit (p : LanguageProfile) (s : Summary) (u : MediaUnit) :
    (addUnit p s u).unitsWithoutFile = s.unitsWithoutFile + if u.hasFile then 0 else 1 := by
  unfold addUnit
  split
  · exact unitsWithoutFile_foldl_addState _ s
  · rfl

end Summary

/-- **One pass finds for each state what counting that state alone finds.** -/
theorem total_summarize (us : List MediaUnit) (p : LanguageProfile) (state : CoverageState) :
    (summarize us p).total state = countState state us p := by
  have key : ∀ s : Summary, (us.foldl (Summary.addUnit p) s).total state =
      s.total state + countState state us p := by
    induction us with
    | nil => intro s; rfl
    | cons u us ih =>
      intro s
      rw [List.foldl_cons, ih, Summary.total_addUnit, countState_cons, Nat.add_assoc]
  rw [summarize, key]
  cases state <;> exact Nat.zero_add _

theorem unitsWithoutFile_summarize (us : List MediaUnit) (p : LanguageProfile) :
    (summarize us p).unitsWithoutFile = us.countP fun u => !u.hasFile := by
  have key : ∀ s : Summary, (us.foldl (Summary.addUnit p) s).unitsWithoutFile =
      s.unitsWithoutFile + us.countP fun u => !u.hasFile := by
    induction us with
    | nil => intro s; rfl
    | cons u us ih =>
      intro s
      rw [List.foldl_cons, ih, Summary.unitsWithoutFile_addUnit, List.countP_cons]
      cases u.hasFile with
      | false => simp only [Bool.not_false, Bool.false_eq_true, if_true, if_false]; omega
      | true => simp
  rw [summarize, key]
  exact Nat.zero_add _

/-- Every pair is in one of the three states. -/
theorem countP_states (es : List (String × CoverageState)) :
    es.countP (fun e => e.2 = .missing) + es.countP (fun e => e.2 = .upgradeable) +
      es.countP (fun e => e.2 = .optimal) = es.length := by
  induction es with
  | nil => rfl
  | cons e es ih =>
    obtain ⟨t, state⟩ := e
    simp only [List.countP_cons, List.length_cons]
    cases state <;> (simp; omega)

theorem pairs_summarize (us : List MediaUnit) (p : LanguageProfile) :
    (summarize us p).pairs = (us.filter (·.hasFile)).length * p.targetLanguages.length := by
  rw [Summary.pairs_eq_total, total_summarize, total_summarize, total_summarize]
  unfold countState
  rw [countP_states, List.length_flatMap]
  simp only [length_pairStates, List.map_const', List.sum_replicate_nat]

/-! ### Rows of a listing -/

/-- The total of a state is what the rows with a file show of it. -/
theorem countState_rows (rows : List (MediaUnit × List Sidecar)) (p : LanguageProfile)
    (state : CoverageState) :
    countState state (rows.map (·.1)) p =
      ((rows.filter (·.1.hasFile)).map fun r => (resolve r.1 r.2 p).count state).sum := by
  rw [countState, List.countP_flatMap, List.filter_map, List.map_map]
  congr 1
  refine List.map_congr_left fun r hr => ?_
  rw [count_resolve (List.mem_filter.1 hr).2]
  rfl

/-- The work list has the languages that the rows with a file show as missing. -/
theorem missingPairs_rows (rows : List (MediaUnit × List Sidecar)) (p : LanguageProfile) :
    missingPairs (rows.map (·.1)) p =
      (rows.filter (·.1.hasFile)).flatMap fun r =>
        (resolve r.1 r.2 p).missingLanguages.map fun t => ⟨r.1.id, t⟩ := by
  rw [missingPairs, List.filter_map, List.flatMap_map]
  refine List.flatMap_congr fun r hr => ?_
  rw [missingLanguages_resolve (List.mem_filter.1 hr).2, List.map_map]
  rfl

/-- **Totals, work list and rows agree.**  The units come with any sidecars, position by position,
and nothing is asked of the profile: it may name a language twice or with blanks around it. -/
theorem summary_agrees_with_rows (rows : List (MediaUnit × List Sidecar)) (p : LanguageProfile) :
    let us := rows.map (·.1)
    let withFile := rows.filter (·.1.hasFile)
    countMissing us p = (missingPairs us p).length ∧
    countMissing us p = (summarize us p).missing ∧
    countUpgradeable us p = (summarize us p).upgradeable ∧
    (∀ state, (summarize us p).total state =
      (withFile.map fun r => (resolve r.1 r.2 p).count state).sum) ∧
    (∀ r ∈ rows, (resolve r.1 r.2 p).perLanguage.map (·.language) = p.targetLanguages) ∧
    missingPairs us p =
      withFile.flatMap (fun r => (resolve r.1 r.2 p).missingLanguages.map fun t => ⟨r.1.id, t⟩) ∧
    (summarize us p).unitsWithoutFile + withFile.length = rows.length ∧
    (summarize us p).pairs = withFile.length * p.targetLanguages.length := by
  intro us withFile
  have hlen : (us.filter (·.hasFile)).length = withFile.length := by
    simp only [us, withFile, List.filter_map, List.length_map]
    rfl
  refine ⟨(length_missingPairs us p).symm, (total_summarize us p .missing).symm,
    (total_summarize us p .upgradeable).symm, fun state => ?_,
    fun r _ => map_language_perLanguage r.1 r.2 p, missingPairs_rows rows p, ?_, ?_⟩
  · rw [total_summarize, countState_rows]
  · -- a unit without a file is counted apart, every other one is in a row with a file
    have hsplit := List.length_eq_countP_add_countP (fun u : MediaUnit => u.hasFile) (l := us)
    rw [List.countP_eq_length_filter, hlen, List.length_map] at hsplit
    rw [unitsWithoutFile_summarize, hsplit, Nat.add_comm]
    simp
  · rw [pairs_summarize, hlen]

end SubtitleCoverage
