import SubtitleCoverage.Proofs.Coverage.Agreement
import SubtitleCoverage.Proofs.Jobs.Lookup
import SubtitleCoverage.Proofs.Library.Changes
import SubtitleCoverage.Proofs.Profile.Default

/-!
# Searching for what is missing

A search goes over the missing pairs of all units that have been loaded: as many as the totals say,
whatever the view shows of them.  All that it changes is the job that the backend answers with, and
the events of that job may have come before the answer.

## Main definitions

* `MissingPair.key`, `BatchItem.key` — a unit and the code of a language.
* `Board.Gains b b' job n` — one board has the job of a dispatch more than another one.

## Main results

* `length_missingItems` — a search has as many items as the totals count.
* `nodup_missingItems` — no two items name one unit and one language.
* `gains_dispatch` — a dispatch changes its job and nothing else.
* `search_dispatches_missing` — **a search asks for the missing pairs, once, if there are some**, and
  changes no more than the job that it is answered with.
-/

namespace SubtitleCoverage

open Dialogue

/-! ### The items -/

/-- The unit and the code of the language that an item is about. -/
def BatchItem.key (i : BatchItem) : MediaUnitId × String :=
  (i.mediaUnitId, LanguageProfile.targetCode i.language)

/-- The unit and the code of the language of a missing pair. -/
def MissingPair.key (e : MissingPair) : MediaUnitId × String :=
  (e.unitId, LanguageProfile.targetCode e.language)

/-- The codes of the languages of a unit's pairs are those of the target languages. -/
theorem map_targetCode_pairStates (p : LanguageProfile) (u : MediaUnit) :
    ((pairStates p u).map fun e => LanguageProfile.targetCode e.1) = p.normalizedTargets := by
  simp only [pairStates, LanguageProfile.normalizedTargets, List.map_map, Function.comp_def]

theorem unitId_of_mem_pairs {p : LanguageProfile} {u : MediaUnit} {e : MissingPair}
    (h : e ∈ ((pairStates p u).filter fun e => e.2 = .missing).map
      fun e => (⟨u.id, e.1⟩ : MissingPair)) : e.unitId = u.id := by
  obtain ⟨s, -, rfl⟩ := List.mem_map.1 h
  rfl

/-- The pairs of one unit differ by their languages. -/
theorem nodup_pairs {p : LanguageProfile} (hp : p.Sound) (u : MediaUnit) :
    (((pairStates p u).filter fun e => e.2 = .missing).map
      fun e => MissingPair.key ⟨u.id, e.1⟩).Nodup := by
  have hcodes : ((pairStates p u).map fun e => LanguageProfile.targetCode e.1).Nodup := by
    rw [map_targetCode_pairStates]
    exact hp.nodup
  have hmissing := hcodes.sublist ((List.filter_sublist (p := fun e => e.2 = .missing)).map _)
  have hkeys := hmissing.map fun c c' (h : (u.id, c) = (u.id, c')) => congrArg Prod.snd h
  rw [List.map_map] at hkeys
  exact hkeys

/-- No two missing pairs are about one unit and one language, if no two units have one id and no two
target languages have one code. -/
theorem nodup_missingPairs {us : List MediaUnit} {p : LanguageProfile} (hp : p.Sound)
    (hids : (us.map (·.id)).Nodup) : ((missingPairs us p).map MissingPair.key).Nodup := by
  rw [missingPairs, List.map_flatMap, List.nodup_flatMap]
  refine ⟨fun u _ => ?_, ?_⟩
  · rw [List.map_map]
    exact nodup_pairs hp u
  · -- the pairs of two units differ by their ids
    have hne : (us.filter (·.hasFile)).Pairwise fun u u' => u.id ≠ u'.id :=
      List.pairwise_map.1 (hids.sublist (List.filter_sublist.map _))
    refine hne.imp fun {u u'} hne k hk hk' => ?_
    obtain ⟨e, he, rfl⟩ := List.mem_map.1 hk
    obtain ⟨e', he', hkey⟩ := List.mem_map.1 hk'
    have hid : e'.unitId = e.unitId := congrArg Prod.fst hkey
    rw [unitId_of_mem_pairs he, unitId_of_mem_pairs he'] at hid
    exact hne hid.symm

namespace LibraryView

/-- A search has as many items as the totals count. -/
theorem length_missingItems (v : LibraryView) : v.missingItems.length = v.summary.missing := by
  rw [missingItems, List.length_map]
  unfold missingPairs summary
  cases v.profile with
  | none => rfl
  | some p => exact (length_missingPairs v.units p).trans (total_summarize v.units p .missing).symm

theorem missingItems_eq_nil_iff (v : LibraryView) : v.missingItems = [] ↔ v.summary.missing = 0 := by
  rw [← length_missingItems, List.length_eq_zero_iff]

/-- No two items name one unit and one language. -/
theorem nodup_missingItems {v : LibraryView} {p : LanguageProfile} (hprofile : v.profile = some p)
    (hp : p.Sound) (hids : (v.units.map (·.id)).Nodup) :
    (v.missingItems.map BatchItem.key).Nodup := by
  rw [missingItems, missingPairs, hprofile, List.map_map]
  exact nodup_missingPairs hp hids

end LibraryView

/-! ### The board -/

/-- One board shows the job of a dispatch more than another one, or knows how many items it has. -/
structure Board.Gains (b b' : Board) (job : JobId) (n : UInt64) : Prop where
  /-- The other jobs are shown, and remembered as taken off, as they were. -/
  others : ∀ k, k ≠ job → b'.get? k = b.get? k ∧ (k ∈ b'.retired ↔ k ∈ b.retired)
  free : job ∉ b'.retired
  /-- Nothing is known of a job that was not shown but its number of items. -/
  idle : b.get? job = none → b'.get? job = some {
    job, phase := .dispatched, total := n, current := 0, completed := 0, failed := 0, skipped := 0
    running := true, lastSequence := none, finishedAt := none }
  /-- A job that was shown stays as it is; its number of items is filled in if it was not known. -/
  shown : ∀ p, b.get? job = some p →
    b'.get? job = some { p with total := if p.total = 0 then n else p.total }

theorem Board.gains_dispatch (b : Board) (job : JobId) (n : UInt64) :
    b.Gains (b.dispatch job n) job n where
  others k hk := by
    refine ⟨by rw [get?_dispatch, if_neg hk.symm], ?_⟩
    rw [retired_dispatch, List.mem_filter]
    exact ⟨fun h => h.1, fun h => ⟨h, decide_eq_true hk⟩⟩
  free := by simp
  idle hidle := by
    rw [get?_dispatch, if_pos rfl, hidle, Option.getD_none, JobProgress.expect_start]
    rfl
  shown p hp := by
    rw [get?_dispatch, if_pos rfl, hp, Option.getD_some, JobProgress.expect]
    by_cases htotal : p.total = 0
    · rw [if_pos htotal, if_pos htotal]
    · rw [if_neg htotal, if_neg htotal]

namespace LibraryView

/-! ### The search -/

/-- **A search asks for the missing pairs, once, if a profile is loaded and some pair is missing**,
and else it asks for nothing.  Its items are the missing pairs in order, as many as the totals count;
they are pairwise different if the profile is valid and no two units have one id.  A job that the
backend accepts is all that changes, and without one the board stays as it is. -/
theorem search_dispatches_missing {v : LibraryView} {b : Board}
    {exchange : List ((c : Call) × c.Outcome)} {o : BatchOutcome}
    (h : Ends (v.searchMissing b) exchange o) :
    ((exchange = [] ∧ (v.profile = none ∨ v.summary.missing = 0) ∧ o.board = b) ∨
      ∃ answer, exchange = [⟨.startLanguageBatch v.scope v.missingItems, answer⟩] ∧
        v.profile ≠ none ∧ 0 < v.summary.missing ∧
        ((∃ f, answer = .error f ∧ o.board = b) ∨
          ∃ started, answer = .ok started ∧ o.view = v ∧
            b.Gains o.board started.job started.totalItems)) ∧
    v.missingItems.map (fun i => (i.mediaUnitId, i.language)) =
      v.missingPairs.map (fun e => (e.unitId, e.language)) ∧
    v.missingItems.length = v.summary.missing ∧
    (∀ p, v.profile = some p → p.validate = .ok () → (v.units.map (·.id)).Nodup →
      (v.missingItems.map BatchItem.key).Nodup) := by
  refine ⟨?_, ?_, v.length_missingItems, fun p hp hvalid hids => ?_⟩
  · have hnone_iff := v.missingItems_eq_nil_iff
    rcases ends_searchMissing h with ⟨hnone, rfl, rfl⟩ | ⟨-, hnil, rfl, rfl⟩ |
      ⟨hprofile, hitems, answer, rfl, rfl⟩
    · exact .inl ⟨rfl, .inl hnone, rfl⟩
    · exact .inl ⟨rfl, .inr (hnone_iff.1 hnil), rfl⟩
    · have hmissing : v.summary.missing ≠ 0 := mt hnone_iff.2 hitems
      refine .inr ⟨answer, rfl, hprofile, Nat.pos_of_ne_zero hmissing, ?_⟩
      cases answer with
      | error f => exact .inl ⟨f, rfl, rfl⟩
      | ok started =>
        exact .inr ⟨started, rfl, rfl, b.gains_dispatch started.job started.totalItems⟩
  · rw [missingItems, List.map_map]
    rfl
  · exact nodup_missingItems hp ((p.validate_eq_ok_iff).1 hvalid) hids

/-- A job has been reported on before the backend answers that it has three items. -/
theorem search_dispatches_missing_to_known_job :
    let u : MediaUnit := { id := ⟨1⟩, title := "Pilot", hasFile := true,
                           subtitles := .ofList [("fr", .ass)] }
    let p : LanguageProfile :=
      { id := ⟨2⟩, sourceLanguage := "en", targetLanguages := ["de", "FR", " nl "] }
    let v : LibraryView := { new "library" {} with units := [u], profile := some p }
    let job : JobId := .ofNat 3
    let b := (Board.empty.apply (.progress ⟨job, some 4, 1, 0, 1, 0⟩) 5).2
    ∃ o, Ends (v.searchMissing b)
        [⟨.startLanguageBatch "library" [⟨u.id, "de"⟩, ⟨u.id, " nl "⟩], .ok ⟨job, 3⟩⟩] o ∧
      o.view = v ∧ v.summary.missing = 2 ∧
      (o.board.get? job).map (fun q => (q.phase, q.total, q.current)) = some (.running, 3, 1) := by
  intro u p v job b
  have hmissing : v.summary.missing = 2 := by cbv
  have hitems : v.missingItems = [⟨u.id, "de"⟩, ⟨u.id, " nl "⟩] := by cbv
  have hends : Ends (v.searchMissing b)
      [⟨.startLanguageBatch v.scope v.missingItems, .ok ⟨job, 3⟩⟩]
      (v.takeBatch b "search" (.ok ⟨job, 3⟩)) := by
    rw [searchMissing, if_neg (by simp [v]), if_neg (by rw [hitems]; simp)]
    exact .ask (.done _)
  obtain ⟨⟨hnone, -⟩ | ⟨answer, hask, -, -, hboard⟩, -⟩ := search_dispatches_missing hends
  · contradiction
  · rw [List.singleton_inj] at hask
    obtain rfl : Except.ok ⟨job, 3⟩ = answer := by simpa using hask
    rcases hboard with ⟨f, hf, -⟩ | ⟨started, hstarted, hview, hgains⟩
    · contradiction
    · rw [hitems] at hends
      refine ⟨_, hends, hview, hmissing, ?_⟩
      obtain rfl := Except.ok.inj hstarted
      -- the job is shown, with no word on its items yet
      have hshown : b.get? job = some {
          job, phase := .running, total := 0, current := 1, completed := 1, running := true
          lastSequence := some 4 } := by decide
      rw [hgains.shown _ hshown]
      rfl

end LibraryView

end SubtitleCoverage
