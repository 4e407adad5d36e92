import Mathlib.Data.List.Induction
import SubtitleCoverage.Proofs.Library.Loading
import SubtitleCoverage.Proofs.Library.Operations

/-!
# Loads that fail

The profile, the pages of units and the sidecars of each unit are asked for in this order, and any of
these calls can fail.  The units of a walk are taken over together or not at all: a page that fails ends
the walk, and what came before it is of no account.  The profile is taken over whatever comes of the
units, and the sidecars are only asked for when there are new units.

## Main definitions

* `pageAnswers`, `inventoriesAsked` — what a load asks for pages of units, and for sidecars.
* `sidecarOutcomes`, `answersAbout`, `leftWith` — what is answered about the sidecars of a unit, and
  what it is left with.
* `Gathered` — the units on some pages, or the fault of the page that ended the walk.
* `LibraryView.Fetched` — what passes between a view and its backend for the units.
* `LibraryView.LoadedBy` — what a load makes of a view, by the answers that it gets.

## Main results

* `fetched_of_ends_fetchPage`, `fetched_of_ends_walkPages` — units are fetched page by page.
* `ends_fetchSidecars`, `Inventory.get?_foldl_record` — what is left of the sidecars of each unit is
  decided by the answers about it.
* `failed_load_keeps_data` — **a load that fails changes nothing but the status**, as far as it fails.
-/

namespace SubtitleCoverage

open Dialogue

/-! ### Pages of units -/

/-- The answer to a call for a page of units. -/
def pageAnswer? : (c : Call) × c.Outcome → Option (Except Fault (Page MediaUnit))
  | ⟨.units .., answer⟩ => some answer
  | _ => none

/-- The answers to all calls for pages of units. -/
def pageAnswers (exchange : List ((c : Call) × c.Outcome)) : List (Except Fault (Page MediaUnit)) :=
  exchange.filterMap pageAnswer?

/-- The unit whose sidecars a call asks for. -/
def Call.inventory? : Call → Option MediaUnitId
  | .sidecars id => some id
  | _ => none

/-- The units whose sidecars have been asked for. -/
def inventoriesAsked (exchange : List ((c : Call) × c.Outcome)) : List MediaUnitId :=
  exchange.filterMap (·.1.inventory?)

/-- What comes of some pages: the units on them, or a fault, which ends the walk. -/
inductive Gathered : List (Except Fault (Page MediaUnit)) → Except Fault (List MediaUnit) → Prop where
  | all (pages : List (Page MediaUnit)) :
    Gathered (pages.map .ok) (.ok (pages.flatMap (·.data)))
  | broken (pages : List (Page MediaUnit)) (f : Fault) :
    Gathered (pages.map .ok ++ [.error f]) (.error f)

namespace Gathered

variable {answers : List (Except Fault (Page MediaUnit))} {out : Except Fault (List MediaUnit)}

/-- A single page. -/
theorem page (p : Page MediaUnit) : Gathered [.ok p] (.ok p.data) := by
  have h := Gathered.all [p]
  rwa [List.flatMap_singleton] at h

/-- A page comes before the others. -/
theorem cons (h : Gathered answers out) (p : Page MediaUnit) :
    Gathered (.ok p :: answers) (out.map (p.data ++ ·)) := by
  cases h with
  | all pages => exact .all (p :: pages)
  | broken pages f => exact .broken (p :: pages) f

/-- A fault is not a page. -/
theorem error_not_mem_map_ok (f : Fault) (pages : List (Page MediaUnit)) :
    (.error f : Except Fault (Page MediaUnit)) ∉ pages.map .ok := by
  simp

/-- If a page has failed, then the walk has, and with no other fault. -/
theorem eq_error_of_mem (h : Gathered answers out) {f : Fault} (hmem : .error f ∈ answers) :
    out = .error f := by
  cases h with
  | all pages => exact absurd hmem (error_not_mem_map_ok f pages)
  | broken pages g =>
    rcases List.mem_append.1 hmem with hmem | hmem
    · exact absurd hmem (error_not_mem_map_ok f pages)
    · cases List.mem_singleton.1 hmem
      rfl

/-- If all pages have come, then the walk has brought the units on them. -/
theorem eq_ok_of_eq_map (h : Gathered answers out) {pages : List (Page MediaUnit)}
    (hpages : answers = pages.map .ok) : out = .ok (pages.flatMap (·.data)) := by
  cases h with
  | all pages' => rw [(List.map_inj_right fun _ _ => Except.ok.inj).1 hpages]
  | broken pages' f =>
    refine absurd ?_ (error_not_mem_map_ok f pages)
    rw [← hpages]
    exact List.mem_append_right _ (List.mem_singleton_self _)

/-- A walk that has brought units has met with no fault. -/
theorem exists_eq_map_of_ok {us : List MediaUnit} (h : Gathered answers (.ok us)) :
    ∃ pages : List (Page MediaUnit), answers = pages.map .ok := by
  cases h with
  | all pages => exact ⟨pages, rfl⟩

end Gathered

namespace LibraryView

/-- What passes between a view and its backend when units are fetched from a page on. -/
structure Fetched (filters : MediaFilters) (page : UInt32) (exchange : List ((c : Call) × c.Outcome))
    (out : Except Fault (List MediaUnit)) : Prop where
  first : ∃ answer rest, exchange = ⟨.units page serverPageSize filters, answer⟩ :: rest
  asked : inventoriesAsked exchange = []
  gathered : Gathered (pageAnswers exchange) out

variable {filters : MediaFilters} {page : UInt32} {exchange : List ((c : Call) × c.Outcome)}
  {out : Except Fault (List MediaUnit)}

/-- One page is fetched. -/
theorem fetched_of_ends_fetchPage (h : Ends (fetchPage filters page) exchange out) :
    Fetched filters page exchange out := by
  obtain ⟨answer, rest, rfl, hrest⟩ := ends_ask_iff.1 h
  cases answer with
  | ok p =>
    obtain ⟨rfl, rfl⟩ := ends_done_iff.1 hrest
    exact ⟨⟨_, _, rfl⟩, rfl, .page p⟩
  | error f =>
    obtain ⟨rfl, rfl⟩ := ends_done_iff.1 hrest
    exact ⟨⟨_, _, rfl⟩, rfl, .broken [] f⟩

/-- A walk that has units already adds those on the pages that are left. -/
theorem exists_gathered_of_ends_walkPages {before : List MediaUnit}
    (h : Ends (walkPages filters before page) exchange out) :
    inventoriesAsked exchange = [] ∧
      ∃ found, Gathered (pageAnswers exchange) found ∧ out = found.map (before ++ ·) := by
  induction h using walkPages_induction with
  | broken before page f => exact ⟨rfl, .error f, .broken [] f, rfl⟩
  | last before page p hlast => exact ⟨rfl, .ok p.data, .page p, rfl⟩
  | more before page p rest out hmore hrest ih =>
    obtain ⟨hasked, found, hfound, rfl⟩ := ih
    refine ⟨hasked, found.map (p.data ++ ·), hfound.cons p, ?_⟩
    cases found with
    | ok us => exact congrArg Except.ok (List.append_assoc ..)
    | error f => rfl

/-- Page after page is fetched. -/
theorem fetched_of_ends_walkPages (h : Ends (walkPages filters [] page) exchange out) :
    Fetched filters page exchange out := by
  obtain ⟨answer, rest, hexchange, -⟩ := ends_walkPages h
  obtain ⟨hasked, found, hfound, rfl⟩ := exists_gathered_of_ends_walkPages h
  refine ⟨⟨answer, rest, hexchange⟩, hasked, ?_⟩
  have hmap : found.map ([] ++ ·) = found := by cases found <;> rfl
  rwa [hmap]

end LibraryView

/-! ### Sidecars -/

/-- The unit and the outcome of a call for sidecars. -/
def sidecarOutcome? : (c : Call) × c.Outcome → Option (MediaUnitId × LibraryView.SidecarOutcome)
  | ⟨.sidecars id, answer⟩ => some (id, answer)
  | _ => none

/-- The outcomes of all calls for sidecars, each with its unit. -/
def sidecarOutcomes (exchange : List ((c : Call) × c.Outcome)) :
    List (MediaUnitId × LibraryView.SidecarOutcome) :=
  exchange.filterMap sidecarOutcome?

theorem map_fst_sidecarOutcomes (exchange : List ((c : Call) × c.Outcome)) :
    (sidecarOutcomes exchange).map (·.1) = inventoriesAsked exchange := by
  rw [sidecarOutcomes, inventoriesAsked, List.map_filterMap]
  congr 1
  funext ⟨c, answer⟩
  cases c <;> rfl

theorem mem_sidecarOutcomes {exchange : List ((c : Call) × c.Outcome)} {id : MediaUnitId}
    {answer : LibraryView.SidecarOutcome} :
    (id, answer) ∈ sidecarOutcomes exchange ↔ ⟨.sidecars id, answer⟩ ∈ exchange := by
  rw [sidecarOutcomes, List.mem_filterMap]
  constructor
  · rintro ⟨⟨c, a⟩, hmem, hsome⟩
    cases c <;> cases hsome
    exact hmem
  · intro hmem
    exact ⟨_, hmem, rfl⟩

/-- The sidecars of each unit are asked for, and nothing else. -/
theorem LibraryView.ends_fetchSidecars (ids : List MediaUnitId) :
    ∀ {exchange : List ((c : Call) × c.Outcome)} {outcomes : List (MediaUnitId × SidecarOutcome)},
      Ends (fetchSidecars ids) exchange outcomes →
        outcomes.map (·.1) = ids ∧
        exchange = outcomes.map fun o => (⟨.sidecars o.1, o.2⟩ : (c : Call) × c.Outcome) := by
  induction ids with
  | nil =>
    intro exchange outcomes h
    obtain ⟨rfl, rfl⟩ := ends_done_iff.1 h
    exact ⟨rfl, rfl⟩
  | cons id ids ih =>
    intro exchange outcomes h
    obtain ⟨outcome, rest, rfl, hrest⟩ := ends_question_bind_iff.1 h
    obtain ⟨later, hlater, rfl⟩ := ends_map_iff.1 hrest
    obtain ⟨hids, rfl⟩ := ih hlater
    exact ⟨congrArg (id :: ·) hids, rfl⟩

/-- The answers about one unit among the outcomes for some. -/
def answersAbout (id : MediaUnitId) (outcomes : List (MediaUnitId × LibraryView.SidecarOutcome)) :
    List LibraryView.SidecarOutcome :=
  outcomes.filterMap fun o => if o.1 = id then some o.2 else none

theorem answersAbout_concat_self (id : MediaUnitId)
    (outcomes : List (MediaUnitId × LibraryView.SidecarOutcome))
    (answer : LibraryView.SidecarOutcome) :
    answersAbout id (outcomes ++ [(id, answer)]) = answersAbout id outcomes ++ [answer] := by
  simp [answersAbout, List.filterMap_append]

theorem answersAbout_concat_of_ne {id id' : MediaUnitId} (h : id' ≠ id)
    (outcomes : List (MediaUnitId × LibraryView.SidecarOutcome))
    (answer : LibraryView.SidecarOutcome) :
    answersAbout id (outcomes ++ [(id', answer)]) = answersAbout id outcomes := by
  simp [answersAbout, List.filterMap_append, h]

/-- There are as many answers about a unit as it has been asked for. -/
theorem length_answersAbout (id : MediaUnitId)
    (outcomes : List (MediaUnitId × LibraryView.SidecarOutcome)) :
    (answersAbout id outcomes).length = (outcomes.map (·.1)).count id := by
  induction outcomes using List.reverseRecOn with
  | nil => rfl
  | append_singleton outcomes o ih =>
    obtain ⟨id', answer⟩ := o
    rw [List.map_append, List.count_append, ← ih]
    by_cases h : id' = id
    · subst h
      simp [answersAbout_concat_self]
    · simp [answersAbout_concat_of_ne h, h]

theorem mem_answersAbout {id : MediaUnitId} {answer : LibraryView.SidecarOutcome}
    {outcomes : List (MediaUnitId × LibraryView.SidecarOutcome)} :
    answer ∈ answersAbout id outcomes ↔ (id, answer) ∈ outcomes := by
  simp [answersAbout]

/-- The sidecars that a unit is left with after some answers: those of the last answer, and after a
fault those known before, which are gone if there was a fault before. -/
def leftWith (known : List Sidecar) (answers : List LibraryView.SidecarOutcome) :
    Option (List Sidecar) :=
  answers.getLast?.map fun
    | .ok sidecars => sidecars
    | .error _ => if answers.dropLast.any (!·.isOk) then [] else known

/-- A unit about which there were answers but no fault is left with one of them. -/
theorem exists_leftWith_of_no_fault {answers : List LibraryView.SidecarOutcome}
    (known : List Sidecar) (hne : answers ≠ []) (hok : ∀ f, .error f ∉ answers) :
    ∃ sidecars, leftWith known answers = some sidecars ∧ .ok sidecars ∈ answers := by
  obtain ⟨earlier, last, h⟩ := (List.eq_nil_or_concat answers).resolve_left hne
  rw [List.concat_eq_append] at h
  subst h
  have hmem : last ∈ earlier ++ [last] := List.mem_append_right _ (List.mem_singleton_self _)
  rw [leftWith, List.getLast?_concat]
  cases last with
  | ok sidecars => exact ⟨sidecars, rfl, hmem⟩
  | error f => exact absurd hmem (hok f)

/-- **What is recorded of some outcomes**: what is known of a unit before is there until the first
fault, and the last answer decides what is known of it now. -/
theorem LibraryView.Inventory.get?_foldl_record (known : OrderedMap MediaUnitId (List Sidecar))
    (id : MediaUnitId) (outcomes : List (MediaUnitId × SidecarOutcome)) :
    let i := outcomes.foldl record ⟨known, .empty⟩
    i.before.get? id =
        (if (answersAbout id outcomes).any (!·.isOk) then none else known.get? id) ∧
      i.now.get? id = leftWith ((known.get? id).getD []) (answersAbout id outcomes) := by
  induction outcomes using List.reverseRecOn with
  | nil => exact ⟨rfl, rfl⟩
  | append_singleton outcomes o ih =>
    obtain ⟨id', answer⟩ := o
    obtain ⟨hbefore, hnow⟩ := ih
    simp only [List.foldl_append, List.foldl_cons, List.foldl_nil]
    by_cases hid : id' = id
    · -- the last answer counts
      subst hid
      rw [answersAbout_concat_self, leftWith, List.getLast?_concat, List.dropLast_concat,
        List.any_append]
      cases answer with
      | ok sidecars =>
        simp only [record, OrderedMap.get?_insert, if_true, hbefore, List.any_cons, List.any_nil]
        exact ⟨by simp [Except.isOk, Except.toBool], rfl⟩
      | error f =>
        simp only [record, OrderedMap.get?_insert, OrderedMap.get?_erase, if_true, hbefore]
        refine ⟨by simp [Except.isOk, Except.toBool], ?_⟩
        simp only [Option.map_some]
        split <;> rfl
    · rw [answersAbout_concat_of_ne hid]
      cases answer with
      | ok sidecars =>
        simp only [record, OrderedMap.get?_insert, if_neg hid]
        exact ⟨hbefore, hnow⟩
      | error f =>
        simp only [record, OrderedMap.get?_insert, OrderedMap.get?_erase, if_neg hid]
        exact ⟨hbefore, hnow⟩

/-! ### The load -/

namespace LibraryView

/-- The page of the backend with which a load begins. -/
def firstPage (v : LibraryView) : Operation → UInt32
  | .refresh => v.serverPage
  | _ => 1

/-- A load fetches units from its first page on. -/
theorem exists_fetched_of_ends {op : Operation} {w w' : Workspace}
    {exchange : List ((c : Call) × c.Outcome)} (hop : op = .refresh ∨ op = .refreshAll)
    (h : Ends (op.perform w) exchange w') :
    ∃ fetch v', Ends (w.view.load fetch) exchange v' ∧ w' = { w with view := v' } ∧
      ∀ walk units, Ends fetch walk units →
        Fetched w.view.filters (w.view.firstPage op) walk units := by
  rcases hop with rfl | rfl
  · obtain ⟨v', hv', rfl⟩ := ends_map_iff.1 h
    exact ⟨_, v', hv', rfl, fun _ _ => fetched_of_ends_fetchPage⟩
  · obtain ⟨v', hv', rfl⟩ := ends_map_iff.1 h
    exact ⟨_, v', hv', rfl, fun _ _ => fetched_of_ends_walkPages⟩

/-- New units are taken over with what the answers about each of them leave of its sidecars. -/
theorem get?_sidecars_of_ends_takeUnits {v v' : LibraryView} {us : List MediaUnit}
    {exchange : List ((c : Call) × c.Outcome)} (h : Ends (v.takeUnits (.ok us)) exchange v') :
    pageAnswers exchange = [] ∧ inventoriesAsked exchange = us.map (·.id) ∧
    ∀ id, v'.sidecars.get? id =
      leftWith (v.sidecarsOf id) (answersAbout id (sidecarOutcomes exchange)) := by
  obtain ⟨outcomes, houtcomes, rfl⟩ := ends_map_iff.1 h
  obtain ⟨hids, rfl⟩ := ends_fetchSidecars _ houtcomes
  have hall : sidecarOutcomes (outcomes.map fun o => ⟨.sidecars o.1, o.2⟩) = outcomes := by
    rw [sidecarOutcomes, List.filterMap_map]
    exact List.filterMap_some
  refine ⟨?_, ?_, fun id => ?_⟩
  · rw [pageAnswers, List.filterMap_map]
    exact List.filterMap_eq_nil_iff.2 fun _ _ => rfl
  · rw [← map_fst_sidecarOutcomes, hall, hids]
  · rw [hall]
    exact (Inventory.get?_foldl_record v.sidecars id outcomes).2

/-- New units are taken over together with the sidecars that are asked for. -/
theorem sidecars_of_ends_takeUnits {v v' : LibraryView} {us : List MediaUnit}
    {exchange : List ((c : Call) × c.Outcome)} (h : Ends (v.takeUnits (.ok us)) exchange v') :
    pageAnswers exchange = [] ∧ inventoriesAsked exchange = us.map (·.id) ∧
    ∀ u ∈ us, (∀ f, ⟨.sidecars u.id, .error f⟩ ∉ exchange) →
      ⟨.sidecars u.id, .ok (v'.sidecarsOf u.id)⟩ ∈ exchange := by
  obtain ⟨hnone, hasked, hleft⟩ := get?_sidecars_of_ends_takeUnits h
  refine ⟨hnone, hasked, fun u hu hok => ?_⟩
  have hne : answersAbout u.id (sidecarOutcomes exchange) ≠ [] := by
    rw [← List.length_pos_iff, length_answersAbout, map_fst_sidecarOutcomes, hasked,
      List.count_pos_iff]
    exact List.mem_map_of_mem hu
  obtain ⟨sidecars, hsome, hmem⟩ := exists_leftWith_of_no_fault (v.sidecarsOf u.id) hne fun f hf =>
    hok f (mem_sidecarOutcomes.1 (mem_answersAbout.1 hf))
  rw [sidecarsOf, hleft, hsome]
  exact mem_sidecarOutcomes.1 (mem_answersAbout.1 hmem)

/-- What a load makes of a view, by the answer for the profile and those for the pages and the
sidecars. -/
structure LoadedBy (v v' : LibraryView) (profile : Except Fault LanguageProfile)
    (exchange : List ((c : Call) × c.Outcome)) : Prop where
  /-- The profile is replaced exactly if it could be had. -/
  profile_eq : v'.profile = match profile with
    | .ok p => some p
    | .error _ => v.profile
  /-- A page that has failed leaves units and sidecars as they were, and the status tells of it. -/
  of_page_failed : ∀ f, .error f ∈ pageAnswers exchange →
    v'.units = v.units ∧ v'.sidecars = v.sidecars ∧ v'.status = .degraded f.message f.isRetryable
  /-- If all pages have come, the units on them are there.  The sidecars of each are asked for anew,
  and are those that have come, if no such call has failed. -/
  of_pages : ∀ pages : List (Page MediaUnit), pageAnswers exchange = pages.map .ok →
    v'.units = pages.flatMap (·.data) ∧
    inventoriesAsked exchange = v'.units.map (·.id) ∧
    ∀ u ∈ v'.units, (∀ f, ⟨.sidecars u.id, .error f⟩ ∉ exchange) →
      ⟨.sidecars u.id, .ok (v'.sidecarsOf u.id)⟩ ∈ exchange
  /-- Then the status can only tell of the profile. -/
  of_profile_failed : ∀ (pages : List (Page MediaUnit)) (f : Fault),
    pageAnswers exchange = pages.map .ok → profile = .error f →
    v'.status = .degraded f.message f.isRetryable
  /-- Sidecars do not count for the status. -/
  ready_iff : v'.status = .ready ↔
    (∃ p, profile = .ok p) ∧ ∃ pages : List (Page MediaUnit), pageAnswers exchange = pages.map .ok

section

variable (v : LibraryView) (profile : Except Fault LanguageProfile)
  {exchange : List ((c : Call) × c.Outcome)}

/-- A walk that ends with a fault leaves everything but the profile as it was. -/
theorem loadedBy_of_gathered_error {f : Fault} (h : Gathered (pageAnswers exchange) (.error f)) :
    v.LoadedBy { v.takeProfile profile with status := .ofFault? (loadFault profile (.error f)) }.clampPage
      profile exchange where
  profile_eq := by cases profile <;> rfl
  of_page_failed g hg := by
    cases h.eq_error_of_mem hg
    cases profile <;> exact ⟨rfl, rfl, rfl⟩
  of_pages pages hpages := nomatch h.eq_ok_of_eq_map hpages
  of_profile_failed pages g hpages := nomatch h.eq_ok_of_eq_map hpages
  ready_iff := iff_of_false nofun fun ⟨_, _, hpages⟩ => nomatch h.eq_ok_of_eq_map hpages

/-- A walk that brings units decides about them, and about the sidecars that are asked for. -/
theorem loadedBy_of_gathered_ok {w : LibraryView} {us : List MediaUnit}
    (h : Gathered (pageAnswers exchange) (.ok us))
    (htake : w = { v.takeProfile profile with units := us, sidecars := w.sidecars })
    (hasked : inventoriesAsked exchange = us.map (·.id))
    (hsidecars : ∀ u ∈ us, (∀ f, ⟨.sidecars u.id, .error f⟩ ∉ exchange) →
      ⟨.sidecars u.id, .ok (w.sidecarsOf u.id)⟩ ∈ exchange) :
    v.LoadedBy { w with status := .ofFault? (loadFault profile (.ok us)) }.clampPage profile
      exchange := by
  rw [htake] at hsidecars ⊢
  exact {
    profile_eq := by cases profile <;> rfl
    of_page_failed := fun f hf => nomatch h.eq_error_of_mem hf
    of_pages := fun pages hpages => ⟨Except.ok.inj (h.eq_ok_of_eq_map hpages), hasked, hsidecars⟩
    of_profile_failed := by
      rintro pages f - rfl
      rfl
    ready_iff := by
      cases profile with
      | ok p => exact iff_of_true rfl ⟨⟨p, rfl⟩, h.exists_eq_map_of_ok⟩
      | error f => exact iff_of_false nofun fun ⟨⟨_, hp⟩, _⟩ => nomatch hp }

end

/-- The parts of a load decide what comes of it. -/
theorem loadedBy_of_ends_load {v v' : LibraryView} {fetch : Inquiry (Except Fault (List MediaUnit))}
    {exchange : List ((c : Call) × c.Outcome)} {page : UInt32} (h : Ends (v.load fetch) exchange v')
    (hfetched : ∀ walk units, Ends fetch walk units → Fetched v.filters page walk units) :
    ∃ profile answer rest, exchange = ⟨.profile v.profileId, profile⟩ ::
        ⟨.units page serverPageSize v.filters, answer⟩ :: rest ∧
      v.LoadedBy v' profile exchange := by
  obtain ⟨profile, units, walk, rest, w, rfl, hwalk, htake, rfl⟩ := ends_load h
  obtain ⟨⟨answer, more, hfirst⟩, hasked, hgathered⟩ := hfetched walk units hwalk
  refine ⟨profile, answer, more ++ rest, by rw [hfirst, List.cons_append], ?_⟩
  have hanswers : pageAnswers (⟨.profile v.profileId, profile⟩ :: (walk ++ rest)) =
      pageAnswers walk ++ pageAnswers rest := List.filterMap_append
  have hinventories : inventoriesAsked (⟨.profile v.profileId, profile⟩ :: (walk ++ rest)) =
      inventoriesAsked walk ++ inventoriesAsked rest := List.filterMap_append
  cases units with
  | error f =>
    obtain ⟨rfl, rfl⟩ := ends_done_iff.1 htake
    refine loadedBy_of_gathered_error v profile ?_
    rwa [hanswers, pageAnswers, pageAnswers, List.filterMap_nil, List.append_nil]
  | ok us =>
    -- only the walk asks for pages, and only what follows it asks for sidecars
    obtain ⟨hnone, hagain, hsidecars⟩ := sidecars_of_ends_takeUnits htake
    have hsubset : rest ⊆ ⟨.profile v.profileId, profile⟩ :: (walk ++ rest) :=
      List.subset_cons_of_subset _ (List.subset_append_right ..)
    refine loadedBy_of_gathered_ok v profile ?_ (units_of_ends_takeUnits htake) ?_ fun u hu hok => ?_
    · rwa [hanswers, hnone, List.append_nil]
    · rw [hinventories, hasked, hagain, List.nil_append]
    · exact hsubset (hsidecars u hu fun f hf => hok f (hsubset hf))

end LibraryView

/-- **A load that fails changes nothing but the status**, as far as it fails.  The profile is replaced
exactly if it could be had.  If a page has failed, units and sidecars are as they were, and the status
tells of that page.  If all pages have come, their units are there with the sidecars asked for anew, and
the status tells at most of the profile.  Whatever happens, nothing else is different, but that a page
which the list does not have any more gives way to the last one. -/
theorem failed_load_keeps_data {op : Operation} {w w' : Workspace}
    {exchange : List ((c : Call) × c.Outcome)} (hop : op = .refresh ∨ op = .refreshAll)
    (h : Ends (op.perform w) exchange w') :
    w' = { w with view := { w.view with
      profile := w'.view.profile
      units := w'.view.units
      sidecars := w'.view.sidecars
      status := w'.view.status
      paginator := w'.view.paginator } } ∧
    ∃ profile answer rest, exchange = ⟨.profile w.view.profileId, profile⟩ ::
        ⟨.units (w.view.firstPage op) serverPageSize w.view.filters, answer⟩ :: rest ∧
      w.view.LoadedBy w'.view profile exchange := by
  obtain ⟨fetch, v', hload, rfl, hfetched⟩ := LibraryView.exists_fetched_of_ends hop h
  refine ⟨?_, LibraryView.loadedBy_of_ends_load hload hfetched⟩
  rw [Workspace.mk.injEq]
  exact ⟨LibraryView.frame_of_ends_load hload, rfl, rfl⟩

/-- The second page of two fails, after the profile and the first page have come. -/
theorem failed_load_keeps_data_of_second_page :
    let p : LanguageProfile := { id := ⟨1⟩, sourceLanguage := "en", targetLanguages := ["fr"] }
    let old : MediaUnit := { id := ⟨1⟩, title := "A" }
    let v : LibraryView :=
      { scope := "library", profileId := ⟨1⟩, units := [old], status := .ready,
        sidecars := OrderedMap.empty.insert ⟨1⟩ [{ path := "a.srt" }], paginator := .ofSize 50 }
    let page : Page MediaUnit := ⟨[{ id := ⟨2⟩, title := "B" }], 251, 1, 2⟩
    let exchange : List ((c : Call) × c.Outcome) := [⟨.profile ⟨1⟩, .ok p⟩,
      ⟨.units 1 serverPageSize {}, .ok page⟩, ⟨.units 2 serverPageSize {}, .error (.channel "lost")⟩]
    (Operation.refreshAll = .refresh ∨ Operation.refreshAll = .refreshAll) ∧
    ∃ w', Ends (Operation.refreshAll.perform ⟨v, .empty, .empty⟩) exchange w' ∧
      w'.view.profile = some p ∧ w'.view.units = [old] ∧ w'.view.sidecars = v.sidecars ∧
      w'.view.status = .degraded "Channel error: lost" true := by
  intro p old v page exchange
  have hwalk : Ends (LibraryView.walkPages {} [] 1) exchange.tail (.error (.channel "lost")) :=
    LibraryView.ends_walkPages_of_more (by decide) (LibraryView.ends_walkPages_error ..)
  obtain ⟨v', hv'⟩ : ∃ v', Ends v.refreshAll exchange v' :=
    ⟨_, ends_question_bind_iff.2 ⟨.ok p, _, rfl, ends_bind.2 ⟨_, [], _, rfl, hwalk, .done _⟩⟩⟩
  have hends : Ends (Operation.refreshAll.perform ⟨v, .empty, .empty⟩) exchange ⟨v', .empty, .empty⟩ :=
    ends_map_iff.2 ⟨v', hv', rfl⟩
  obtain ⟨-, profile, answer, rest, hexchange, hloaded⟩ := failed_load_keeps_data (.inr rfl) hends
  obtain rfl : .ok p = profile := by
    cases (List.cons.inj hexchange).1
    rfl
  obtain ⟨hunits, hsidecars, hstatus⟩ := hloaded.of_page_failed (.channel "lost")
    (List.mem_cons_of_mem _ (List.mem_singleton_self _))
  exact ⟨.inr rfl, _, hends, hloaded.profile_eq, hunits, hsidecars, hstatus⟩

end SubtitleCoverage
