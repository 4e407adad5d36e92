import SubtitleCoverage.Library.Load
import SubtitleCoverage.Proofs.Backend.Exchanges

/-!
# What a load does

A load is taken apart into the answers that it gets.  The walk over the pages of the backend asks
for one page after the other; it is told by each answer whether there is a further one.

## Main results

* `ends_load`, `units_of_ends_takeUnits` — the parts of a load, and the units that come of it.
* `frame_of_ends_load` — what a load leaves as it is.
* `ends_walkPages` — one step of the walk.
* `walkPages_induction` — an induction along the walk, by its steps.
* `walkPages_eq_of_answers` — **the walk ends before the first page without records** that is not
  the last one, if the backend knows how many pages there are.
-/

namespace SubtitleCoverage

open Dialogue

namespace LibraryView

/-! ### Loads -/

/-- A load asks for the profile, then for the units, and then for their sidecars. -/
theorem ends_load {v v' : LibraryView} {fetch : Inquiry (Except Fault (List MediaUnit))}
    {exchange : List ((c : Call) × c.Outcome)} (h : Ends (v.load fetch) exchange v') :
    ∃ (profile : Except Fault LanguageProfile) (units : Except Fault (List MediaUnit))
      (walk rest : List ((c : Call) × c.Outcome)) (w : LibraryView),
      exchange = ⟨.profile v.profileId, profile⟩ :: (walk ++ rest) ∧ Ends fetch walk units ∧
      Ends ((v.takeProfile profile).takeUnits units) rest w ∧
      v' = { w with status := .ofFault? (loadFault profile units) }.clampPage := by
  rw [load] at h
  obtain ⟨profile, later, rfl, hlater⟩ := ends_question_bind_iff.1 h
  obtain ⟨walk, later, units, rfl, hwalk, hlater⟩ := ends_bind.1 hlater
  obtain ⟨rest, last, w, rfl, htake, hlast⟩ := ends_bind.1 hlater
  obtain ⟨rfl, rfl⟩ := ends_done_iff.1 hlast
  refine ⟨profile, units, walk, rest, w, ?_, hwalk, htake, rfl⟩
  rw [List.append_nil]

/-- Only units that have come are taken over, and with them their sidecars. -/
theorem units_of_ends_takeUnits {v w : LibraryView} {us : List MediaUnit}
    {exchange : List ((c : Call) × c.Outcome)} (h : Ends (v.takeUnits (.ok us)) exchange w) :
    w = { v with units := us, sidecars := w.sidecars } := by
  obtain ⟨before, after, outcomes, rfl, -, hafter⟩ := ends_bind.1 h
  obtain ⟨rfl, rfl⟩ := ends_done_iff.1 hafter
  rfl

/-- A load changes the profile, the units and their sidecars, and the status, and may go back to the
last page. -/
theorem frame_of_ends_load {v v' : LibraryView} {fetch : Inquiry (Except Fault (List MediaUnit))}
    {exchange : List ((c : Call) × c.Outcome)} (h : Ends (v.load fetch) exchange v') :
    v' = { v with
      profile := v'.profile
      units := v'.units
      sidecars := v'.sidecars
      status := v'.status
      paginator := v'.paginator } := by
  obtain ⟨profile, units, walk, rest, w, -, -, htake, rfl⟩ := ends_load h
  have hprofile : v.takeProfile profile = { v with profile := (v.takeProfile profile).profile } := by
    cases profile <;> rfl
  cases units with
  | ok us =>
    rw [units_of_ends_takeUnits htake, hprofile]
    rfl
  | error f =>
    obtain ⟨-, rfl⟩ := ends_done_iff.1 htake
    rw [hprofile]
    rfl

/-! ### The walk over the pages -/

/-- One step of the walk.  It goes on if the answer has records and tells of a further page. -/
theorem ends_walkPages {filters : MediaFilters} {before : List MediaUnit} {page : UInt32}
    {exchange : List ((c : Call) × c.Outcome)} {out : Except Fault (List MediaUnit)}
    (h : Ends (walkPages filters before page) exchange out) :
    ∃ (answer : Except Fault (Page MediaUnit)) (rest : List ((c : Call) × c.Outcome)),
      exchange = ⟨.units page serverPageSize filters, answer⟩ :: rest ∧
      ((∃ f, answer = .error f ∧ out = .error f ∧ rest = []) ∨
        ∃ p, answer = .ok p ∧
          ((page < p.totalPages ∧ p.data ≠ [] ∧
              Ends (walkPages filters (before ++ p.data) (page + 1)) rest out) ∨
            (¬(page < p.totalPages ∧ p.data ≠ []) ∧ out = .ok (before ++ p.data) ∧
              rest = []))) := by
  rw [walkPages] at h
  obtain ⟨answer, rest, rfl, hrest⟩ := ends_ask_iff.1 h
  refine ⟨answer, rest, rfl, ?_⟩
  match answer with
  | .error f =>
    obtain ⟨rfl, rfl⟩ := ends_done_iff.1 hrest
    exact .inl ⟨f, rfl, rfl, rfl⟩
  | .ok p =>
    refine .inr ⟨p, rfl, ?_⟩
    dsimp only at hrest
    split at hrest
    · next hmore => exact .inl ⟨hmore.1, hmore.2, hrest⟩
    · next hlast =>
      obtain ⟨rfl, rfl⟩ := ends_done_iff.1 hrest
      exact .inr ⟨hlast, rfl, rfl⟩

/-- The walk goes on after a page that is not the last one. -/
theorem ends_walkPages_of_more {filters : MediaFilters} {before : List MediaUnit} {page : UInt32}
    {p : Page MediaUnit} {rest : List ((c : Call) × c.Outcome)} {out : Except Fault (List MediaUnit)}
    (hmore : page < p.totalPages ∧ p.data ≠ [])
    (h : Ends (walkPages filters (before ++ p.data) (page + 1)) rest out) :
    Ends (walkPages filters before page) (⟨.units page serverPageSize filters, .ok p⟩ :: rest) out := by
  rw [walkPages, ends_ask_iff]
  refine ⟨.ok p, rest, rfl, ?_⟩
  dsimp only
  rwa [dif_pos hmore]

/-- The walk ends with a page that has no units or is not followed by another one. -/
theorem ends_walkPages_last {filters : MediaFilters} {before : List MediaUnit} {page : UInt32}
    {p : Page MediaUnit} (hlast : ¬(page < p.totalPages ∧ p.data ≠ [])) :
    Ends (walkPages filters before page) [⟨.units page serverPageSize filters, .ok p⟩]
      (.ok (before ++ p.data)) := by
  rw [walkPages, ends_ask_iff]
  refine ⟨.ok p, [], rfl, ?_⟩
  dsimp only
  rw [dif_neg hlast]
  exact .done _

/-- The walk ends with a page that fails. -/
theorem ends_walkPages_error (filters : MediaFilters) (before : List MediaUnit) (page : UInt32)
    (f : Fault) :
    Ends (walkPages filters before page) [⟨.units page serverPageSize filters, .error f⟩] (.error f) := by
  rw [walkPages]
  exact .ask (.done _)

/-- **Induction along a walk.**  It breaks off at a page that fails, it ends with a page that has no
units or is not followed by another one, and it goes on after any other page. -/
@[elab_as_elim]
theorem walkPages_induction {filters : MediaFilters}
    {motive : ∀ before page exchange out, Ends (walkPages filters before page) exchange out → Prop}
    (broken : ∀ before page f, motive before page [⟨.units page serverPageSize filters, .error f⟩]
      (.error f) (ends_walkPages_error filters before page f))
    (last : ∀ before page p (hlast : ¬(page < p.totalPages ∧ p.data ≠ [])),
      motive before page [⟨.units page serverPageSize filters, .ok p⟩] (.ok (before ++ p.data))
        (ends_walkPages_last hlast))
    (more : ∀ before page p rest out (hmore : page < p.totalPages ∧ p.data ≠ [])
      (hrest : Ends (walkPages filters (before ++ p.data) (page + 1)) rest out),
      motive (before ++ p.data) (page + 1) rest out hrest →
      motive before page (⟨.units page serverPageSize filters, .ok p⟩ :: rest) out
        (ends_walkPages_of_more hmore hrest))
    {before : List MediaUnit} {page : UInt32} {exchange : List ((c : Call) × c.Outcome)}
    {out : Except Fault (List MediaUnit)} (h : Ends (walkPages filters before page) exchange out) :
    motive before page exchange out h := by
  induction exchange generalizing before page with
  | nil =>
    obtain ⟨answer, rest, hexchange, -⟩ := ends_walkPages h
    contradiction
  | cons e exchange ih =>
    obtain ⟨answer, rest, hexchange, hstep⟩ := ends_walkPages h
    obtain ⟨rfl, rfl⟩ := List.cons.inj hexchange
    rcases hstep with ⟨f, rfl, rfl, rfl⟩ | ⟨p, rfl, ⟨hlt, hne, hrest⟩ | ⟨hlast, rfl, rfl⟩⟩
    · exact broken before page f
    · exact more before page p exchange out ⟨hlt, hne⟩ hrest (ih hrest)
    · exact last before page p hlast

/-- The answers of a backend with `total` pages in all, of which those from `page` on hold the
records `pages`. -/
def AnswersPages (filters : MediaFilters) (total page : UInt32) (pages : List (List MediaUnit))
    (exchange : List ((c : Call) × c.Outcome)) : Prop :=
  ∀ k us, pages[k]? = some us → ∀ n : UInt32, n.toNat = page.toNat + k →
    ∀ answer : Except Fault (Page MediaUnit), ⟨.units n serverPageSize filters, answer⟩ ∈ exchange →
      ∃ p, answer = .ok p ∧ p.data = us ∧ p.totalPages = total

/-- **The walk ends before the first page without records.** -/
theorem walkPages_eq_of_answers {filters : MediaFilters} {total : UInt32}
    (pages : List (List MediaUnit)) :
    ∀ {before : List MediaUnit} {page : UInt32} {exchange : List ((c : Call) × c.Outcome)}
      {out : Except Fault (List MediaUnit)},
      Ends (walkPages filters before page) exchange out → pages ≠ [] →
      page.toNat + pages.length = total.toNat + 1 →
      AnswersPages filters total page pages exchange →
      out = .ok (before ++ (pages.takeWhile (!·.isEmpty)).flatten) := by
  induction pages with
  | nil =>
    intro before page exchange out _ hne
    exact absurd rfl hne
  | cons us pages ih =>
    intro before page exchange out h _ hlength hanswers
    rw [List.length_cons] at hlength
    obtain ⟨answer, rest, rfl, hstep⟩ := ends_walkPages h
    obtain ⟨p, rfl, hdata, htotal⟩ := hanswers 0 us rfl page rfl answer (List.mem_cons_self ..)
    rcases hstep with ⟨f, hf, -⟩ | ⟨p', hp', hstep⟩
    · contradiction
    · obtain rfl : p = p' := Except.ok.inj hp'
      rw [hdata, htotal] at hstep
      rcases hstep with ⟨hmore, hne, hrest⟩ | ⟨hlast, rfl, -⟩
      · -- there is a further page
        have hlt := UInt32.lt_iff_toNat_lt.1 hmore
        have hnext := toNat_add_one_of_lt hmore
        have hpages : pages ≠ [] := fun hnil => by
          rw [hnil, List.length_nil] at hlength
          omega
        have hanswers' : AnswersPages filters total (page + 1) pages rest := by
          intro k us' hk n hn answer hmem
          refine hanswers (k + 1) us' hk n ?_ answer (List.mem_cons_of_mem _ hmem)
          omega
        rw [ih hrest hpages (by omega) hanswers', List.takeWhile_cons_of_pos (by simpa using hne),
          List.flatten_cons, List.append_assoc]
      · by_cases hne : us = []
        · -- the walk ends with a page without records, whether there is a further one or not
          rw [hne]
          rfl
        · have hpages : pages = [] := by
            have hge : ¬page.toNat < total.toNat := fun hlt =>
              hlast ⟨UInt32.lt_iff_toNat_lt.2 hlt, hne⟩
            exact List.length_eq_zero_iff.1 (by omega)
          rw [hpages, List.takeWhile_cons_of_pos (by simpa using hne), List.takeWhile_nil,
            List.flatten_singleton]

end LibraryView

end SubtitleCoverage
