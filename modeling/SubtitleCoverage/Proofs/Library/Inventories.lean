import Mathlib
import SubtitleCoverage.Proofs.Library.FailedLoads

/-!
# Sidecars after a load

A load asks for the sidecars of every unit that has come, one place of the list after the other.  A
fault is to cost nothing: a unit about which nothing else is heard keeps the sidecars that it had.
That is so as long as each unit comes once.  If the library shifts while its pages are walked, a
unit comes twice and is asked for twice, and then the last answer decides: after a fault the sidecars
known before come back even if there was a fresh list, and a second fault finds them gone.

## Main definitions

* `KeepsInventory known answers now` — no fault has cost a unit its sidecars.

## Main results

* `inventories_after_load` — **what a load leaves of every unit's sidecars**; no fault costs
  anything if the unit was asked for once, or answered last by a list.
* `inventory_lost_by_repeated_unit` — a unit that comes twice loses its sidecars by two faults.
-/

namespace SubtitleCoverage

open Dialogue

/-- No fault has cost a unit its sidecars: those known before are there if nothing but faults came,
and a list that has come is there if any has. -/
structure KeepsInventory (known : List Sidecar) (answers : List LibraryView.SidecarOutcome)
    (now : List Sidecar) : Prop where
  kept : (∀ answer ∈ answers, ∃ f, answer = .error f) → now = known
  fresh : (∃ sidecars, .ok sidecars ∈ answers) → .ok now ∈ answers

/-- A list that comes last is there. -/
theorem keepsInventory_of_last_ok {known now : List Sidecar}
    {answers : List LibraryView.SidecarOutcome} (h : answers.getLast? = some (.ok now)) :
    KeepsInventory known answers now := by
  have hmem : .ok now ∈ answers := List.mem_of_getLast? h
  refine ⟨fun hall => ?_, fun _ => hmem⟩
  obtain ⟨f, hf⟩ := hall _ hmem
  cases hf

/-- A single fault leaves the sidecars that were known. -/
theorem keepsInventory_single_error (known : List Sidecar) (f : Fault) :
    KeepsInventory known [.error f] known := by
  refine ⟨fun _ => rfl, ?_⟩
  rintro ⟨sidecars, hmem⟩
  cases List.mem_singleton.1 hmem

/-- What a unit is left with has cost nothing if it was asked for once, or answered last by a list. -/
theorem keepsInventory_leftWith (known : List Sidecar) {answers : List LibraryView.SidecarOutcome}
    (h : answers.length = 1 ∨ ∃ sidecars, answers.getLast? = some (.ok sidecars)) :
    KeepsInventory known answers ((leftWith known answers).getD []) := by
  rcases h with hone | ⟨sidecars, hlast⟩
  · obtain ⟨answer, rfl⟩ := List.length_eq_one_iff.1 hone
    cases answer with
    | ok sidecars => exact keepsInventory_of_last_ok rfl
    | error f => exact keepsInventory_single_error known f
  · rw [leftWith, hlast]
    exact keepsInventory_of_last_ok hlast

namespace LibraryView

/-- If all pages of units have come, only the answers about a unit decide about its sidecars. -/
theorem get?_sidecars_of_ends_load {v v' : LibraryView}
    {fetch : Inquiry (Except Fault (List MediaUnit))} {exchange : List ((c : Call) × c.Outcome)}
    {page : UInt32} {pages : List (Page MediaUnit)} (h : Ends (v.load fetch) exchange v')
    (hfetched : ∀ walk units, Ends fetch walk units → Fetched v.filters page walk units)
    (hpages : pageAnswers exchange = pages.map .ok) :
    inventoriesAsked exchange = v'.units.map (·.id) ∧
    ∀ id, v'.sidecars.get? id =
      leftWith (v.sidecarsOf id) (answersAbout id (sidecarOutcomes exchange)) := by
  obtain ⟨profile, units, walk, rest, w, rfl, hwalk, htake, rfl⟩ := ends_load h
  obtain ⟨-, hasked, hgathered⟩ := hfetched walk units hwalk
  have hanswers : pageAnswers (⟨.profile v.profileId, profile⟩ :: (walk ++ rest)) =
      pageAnswers walk ++ pageAnswers rest := List.filterMap_append
  cases units with
  | error f =>
    -- a walk that has failed has met with a page that has not come
    obtain ⟨rfl, -⟩ := ends_done_iff.1 htake
    rw [hanswers, pageAnswers, pageAnswers, List.filterMap_nil, List.append_nil] at hpages
    cases hgathered.eq_ok_of_eq_map hpages
  | ok us =>
    obtain ⟨-, hagain, hleft⟩ := get?_sidecars_of_ends_takeUnits htake
    have hinventories : inventoriesAsked (⟨.profile v.profileId, profile⟩ :: (walk ++ rest)) =
        inventoriesAsked walk ++ inventoriesAsked rest := List.filterMap_append
    have hwalk : sidecarOutcomes walk = [] := by
      rw [← List.map_eq_nil_iff, map_fst_sidecarOutcomes, hasked]
    have houtcomes : sidecarOutcomes (⟨.profile v.profileId, profile⟩ :: (walk ++ rest)) =
        sidecarOutcomes walk ++ sidecarOutcomes rest := List.filterMap_append
    have hknown : (v.takeProfile profile).sidecars = v.sidecars := by cases profile <;> rfl
    refine ⟨?_, fun id => ?_⟩
    · rw [hinventories, hasked, hagain, List.nil_append, units_of_ends_takeUnits htake]
      rfl
    · rw [houtcomes, hwalk, List.nil_append, sidecarsOf, ← hknown]
      exact hleft id

/-- **What a load leaves of every unit's sidecars.**  If all pages of units have come, each unit is
asked for as often as it is among them, and what it is left with is decided by the answers about it
alone; a unit that is not among them has no sidecars.  No fault costs a unit anything if it was asked
for once, or answered last by a list. -/
theorem inventories_after_load {op : Operation} {w w' : Workspace}
    {exchange : List ((c : Call) × c.Outcome)} {pages : List (Page MediaUnit)}
    (hop : op = .refresh ∨ op = .refreshAll) (h : Ends (op.perform w) exchange w')
    (hpages : pageAnswers exchange = pages.map .ok) (id : MediaUnitId) :
    let answers := answersAbout id (sidecarOutcomes exchange)
    answers.length = (w'.view.units.map (·.id)).count id ∧
    w'.view.sidecars.get? id = leftWith (w.view.sidecarsOf id) answers ∧
    (id ∉ w'.view.units.map (·.id) → w'.view.sidecars.get? id = none) ∧
    (answers.length = 1 ∨ (∃ sidecars, answers.getLast? = some (.ok sidecars)) →
      KeepsInventory (w.view.sidecarsOf id) answers (w'.view.sidecarsOf id)) := by
  intro answers
  obtain ⟨fetch, v', hload, rfl, hfetched⟩ := exists_fetched_of_ends hop h
  obtain ⟨hasked, hleft⟩ := get?_sidecars_of_ends_load hload hfetched hpages
  have hlength : answers.length = (v'.units.map (·.id)).count id := by
    rw [length_answersAbout, map_fst_sidecarOutcomes, hasked]
  have hget : v'.sidecars.get? id = leftWith (w.view.sidecarsOf id) answers := hleft id
  refine ⟨hlength, hget, fun hnot => ?_, fun hlast => ?_⟩
  · rw [List.count_eq_zero_of_not_mem hnot, List.length_eq_zero_iff] at hlength
    show v'.sidecars.get? id = none
    rw [hget, hlength]
    rfl
  · show KeepsInventory _ answers ((v'.sidecars.get? id).getD [])
    rw [hget]
    exact keepsInventory_leftWith _ hlast

/-- Of two units one is answered by a fault; the other one comes twice, and is answered by a fault
before a list. -/
theorem inventories_after_load_fault_then_list :
    let u : MediaUnit := { id := ⟨7⟩, title := "A" }
    let u' : MediaUnit := { id := ⟨8⟩, title := "B" }
    let old : List Sidecar := [{ path := "a.srt" }]
    let new : List Sidecar := [{ path := "b.srt" }]
    let v : LibraryView :=
      { scope := "library", profileId := ⟨1⟩, sidecars := OrderedMap.empty.insert ⟨7⟩ old,
        paginator := .ofSize 50 }
    let exchange : List ((c : Call) × c.Outcome) := [⟨.profile ⟨1⟩, .error (.channel "lost")⟩,
      ⟨.units 1 serverPageSize {}, .ok ⟨[u, u', u'], 3, 1, 1⟩⟩,
      ⟨.sidecars ⟨7⟩, .error (.channel "lost")⟩, ⟨.sidecars ⟨8⟩, .error (.channel "lost")⟩,
      ⟨.sidecars ⟨8⟩, .ok new⟩]
    (Operation.refresh = .refresh ∨ Operation.refresh = .refreshAll) ∧
    pageAnswers exchange = [⟨[u, u', u'], 3, 1, 1⟩].map .ok ∧
    ∃ w', Ends (Operation.refresh.perform ⟨v, .empty, .empty⟩) exchange w' ∧
      w'.view.sidecarsOf ⟨7⟩ = old ∧ w'.view.sidecarsOf ⟨8⟩ = new := by
  intro u u' old new v exchange
  have hpages : pageAnswers exchange = [⟨[u, u', u'], 3, 1, 1⟩].map .ok := rfl
  obtain ⟨v', hv'⟩ : ∃ v', Ends v.refresh exchange v' :=
    ⟨_, .ask (.ask (.ask (.ask (.ask (.done _)))))⟩
  have hends : Ends (Operation.refresh.perform ⟨v, .empty, .empty⟩) exchange ⟨v', .empty, .empty⟩ :=
    ends_map_iff.2 ⟨v', hv', rfl⟩
  have hget (id : MediaUnitId) := (inventories_after_load (.inl rfl) hends hpages id).2.1
  refine ⟨.inl rfl, hpages, _, hends, ?_, ?_⟩
  · rw [sidecarsOf, hget]
    rfl
  · rw [sidecarsOf, hget]
    rfl

/-- If a unit comes twice, two answers decide about its sidecars. -/
theorem exists_refresh_of_repeated_unit (v : LibraryView) (p : LanguageProfile) (u : MediaUnit)
    (first second : SidecarOutcome) :
    ∃ v', Ends v.refresh
        [⟨.profile v.profileId, .ok p⟩,
          ⟨.units v.serverPage serverPageSize v.filters, .ok ⟨[u, u], 2, 1, 1⟩⟩,
          ⟨.sidecars u.id, first⟩, ⟨.sidecars u.id, second⟩] v' ∧
      v'.units = [u, u] ∧
      v'.sidecarsOf u.id = (leftWith (v.sidecarsOf u.id) [first, second]).getD [] := by
  obtain ⟨v', hv', hw⟩ :=
    ends_map_iff.1 (Operation.ends_refresh_pair ⟨v, .empty, .empty⟩ p u u first second)
  have hv : v' = _ := (congrArg Workspace.view hw).symm
  refine ⟨v', hv', by rw [hv]; rfl, ?_⟩
  have hleft := (Inventory.get?_foldl_record v.sidecars u.id [(u.id, first), (u.id, second)]).2
  have habout : answersAbout u.id [(u.id, first), (u.id, second)] = [first, second] := by
    simp [answersAbout]
  rw [habout] at hleft
  rw [hv, sidecarsOf]
  exact congrArg (·.getD []) hleft

/-- A unit comes twice when its view is loaded again.  Two faults cost it its sidecars; a fault after
a list brings back those known before. -/
theorem inventory_lost_by_repeated_unit :
    let u : MediaUnit := { id := ⟨7⟩, title := "A" }
    let p : LanguageProfile := { id := ⟨1⟩, sourceLanguage := "en", targetLanguages := ["de"] }
    let answered (first second : SidecarOutcome) : List ((c : Call) × c.Outcome) :=
      [⟨.profile ⟨1⟩, .ok p⟩, ⟨.units 1 serverPageSize {}, .ok ⟨[u, u], 2, 1, 1⟩⟩,
        ⟨.sidecars ⟨7⟩, first⟩, ⟨.sidecars ⟨7⟩, second⟩]
    let fault : SidecarOutcome := .error (.channel "lost")
    ∃ v lost stale, (newFor "library" {} {}).Runs [.refresh] v ∧
      v.sidecarsOf ⟨7⟩ = [{ path := "a.srt" }] ∧
      Ends v.refresh (answered fault fault) lost ∧ lost.units = [u, u] ∧
      ¬KeepsInventory (v.sidecarsOf ⟨7⟩) [fault, fault] (lost.sidecarsOf ⟨7⟩) ∧
      Ends v.refresh (answered (.ok [{ path := "b.srt" }]) fault) stale ∧
      ¬KeepsInventory (v.sidecarsOf ⟨7⟩) [.ok [{ path := "b.srt" }], fault]
        (stale.sidecarsOf ⟨7⟩) := by
  intro u p answered fault
  let a : Sidecar := { path := "a.srt" }
  let b : Sidecar := { path := "b.srt" }
  let known : List (MediaUnitId × SidecarOutcome) := [(u.id, .ok [a]), (u.id, .ok [a])]
  let v : LibraryView := { newFor "library" {} {} with
    profile := some p
    units := [u, u]
    sidecars := (known.foldl Inventory.record ⟨.empty, .empty⟩).now
    status := .ready }.clampPage
  have hstep : (newFor "library" {} {}).Step .refresh v :=
    ⟨.empty, .empty, _, _, Operation.ends_refresh_pair _ p u u (.ok [a]) (.ok [a]), rfl⟩
  have hknown : v.sidecarsOf ⟨7⟩ = [a] := by cbv
  obtain ⟨lost, hlost, hunits, hnone⟩ := exists_refresh_of_repeated_unit v p u fault fault
  obtain ⟨stale, hstale, -, hold⟩ := exists_refresh_of_repeated_unit v p u (.ok [b]) fault
  have hnone : lost.sidecarsOf ⟨7⟩ = [] := hnone
  have hold : stale.sidecarsOf ⟨7⟩ = v.sidecarsOf ⟨7⟩ := hold
  refine ⟨v, lost, stale, .snoc .nil hstep, hknown, hlost, hunits, fun h => ?_, hstale,
    fun h => ?_⟩
  · have hkept := h.kept (by simp [fault])
    rw [hnone, hknown] at hkept
    cases hkept
  · have hfresh := h.fresh ⟨[b], List.mem_cons_self⟩
    rw [hold, hknown] at hfresh
    simp [fault, a] at hfresh

end LibraryView

end SubtitleCoverage
