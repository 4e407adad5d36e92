import Mathlib.Algebra.Order.Ring.Nat
import SubtitleCoverage.Proofs.Library.FailedLoads

/-!
# How the walk over the pages ends

The number of the last page is read off every answer anew, and a backend may say what it likes: another
number each time, the same records again and again, or that there is always more.  The walk ends all the
same.  A page that is followed by another one has a smaller number than some number of 32 bits, so the
numbers asked for go up one by one and never start again at 0.

## Main definitions

* `TellsOfMore n answer` — the answer to a call for page `n` has records and tells of a further page.
* `WalksOver filters first pages exchange` — some pages are asked for one after the other, up to an
  answer that does not tell of more.

## Main results

* `WalksOver.le_size` — the numbers of all these pages have 32 bits.
* `exists_walksOver` — a walk over the pages asks for such pages.
* `walkPages_ends` — **the walk ends whatever the backend answers.**
* `exists_walk_over_all_numbers` — a backend can have the walk go through all numbers.
-/

namespace SubtitleCoverage

open Dialogue

/-! ### Pages one after the other -/

/-- The answer to a call for page `n` has records and tells of a further page. -/
def TellsOfMore (n : Nat) (answer : Except Fault (Page MediaUnit)) : Prop :=
  ∃ p, answer = .ok p ∧ p.data ≠ [] ∧ n < p.totalPages.toNat

/-- Some pages are asked for one after the other, each with the number after the one before it, and
nothing else.  After each answer there is a further page iff the answer tells of it. -/
structure WalksOver (filters : MediaFilters) (first : UInt32) (pages : List UInt32)
    (exchange : List ((c : Call) × c.Outcome)) : Prop where
  ne_nil : pages ≠ []
  calls : exchange.map (·.1) = pages.map (Call.units · serverPageSize filters)
  numbers : pages.map (·.toNat) = List.range' first.toNat pages.length
  answers : (pageAnswers exchange).length = pages.length
  goesOn_iff : ∀ k answer, (pageAnswers exchange)[k]? = some answer →
    (k + 1 < pages.length ↔ TellsOfMore (first.toNat + k) answer)

namespace WalksOver

variable {filters : MediaFilters} {first : UInt32} {pages : List UInt32}
  {exchange : List ((c : Call) × c.Outcome)} {answer : Except Fault (Page MediaUnit)}

/-- A single page. -/
theorem single (h : ¬TellsOfMore first.toNat answer) :
    WalksOver filters first [first] [⟨.units first serverPageSize filters, answer⟩] where
  ne_nil := nofun
  calls := rfl
  numbers := rfl
  answers := rfl
  goesOn_iff := by
    intro k answer' hk
    cases k with
    | zero =>
      obtain rfl : answer = answer' := Option.some.inj hk
      exact iff_of_false (Nat.lt_irrefl 1) h
    | succ k => contradiction

/-- A page comes before the others. -/
theorem cons (h : WalksOver filters (first + 1) pages exchange)
    (hnext : (first + 1).toNat = first.toNat + 1) (hmore : TellsOfMore first.toNat answer) :
    WalksOver filters first (first :: pages)
      (⟨.units first serverPageSize filters, answer⟩ :: exchange) where
  ne_nil := nofun
  calls := congrArg (_ :: ·) h.calls
  numbers := by
    rw [List.map_cons, h.numbers, hnext, List.length_cons, List.range'_succ]
  answers := congrArg (· + 1) h.answers
  goesOn_iff := by
    intro k answer' hk
    cases k with
    | zero =>
      obtain rfl : answer = answer' := Option.some.inj hk
      have hlength := List.length_pos_iff.2 h.ne_nil
      exact iff_of_true (Nat.succ_lt_succ hlength) hmore
    | succ k =>
      have hiff := h.goesOn_iff k answer' hk
      rw [hnext, Nat.add_right_comm] at hiff
      exact Nat.succ_lt_succ_iff.trans hiff

/-- The number of the last page has 32 bits, and so there are no more pages than that. -/
theorem le_size (h : WalksOver filters first pages exchange) :
    first.toNat + pages.length ≤ UInt32.size := by
  have hlength := List.length_pos_iff.2 h.ne_nil
  have hlast : first.toNat + (pages.length - 1) ∈ pages.map (·.toNat) := by
    rw [h.numbers, List.mem_range'_1]
    omega
  obtain ⟨page, -, hpage⟩ := List.mem_map.1 hlast
  have hlt := page.toNat_lt_size
  omega

end WalksOver

namespace LibraryView

/-! ### The walk -/

/-- **A walk asks for one page after the other**, up to the first answer that does not tell of more. -/
theorem exists_walksOver {filters : MediaFilters} {before : List MediaUnit} {page : UInt32}
    {exchange : List ((c : Call) × c.Outcome)} {out : Except Fault (List MediaUnit)}
    (h : Ends (walkPages filters before page) exchange out) :
    ∃ pages, WalksOver filters page pages exchange := by
  induction h using walkPages_induction with
  | broken before page f => exact ⟨[page], .single nofun⟩
  | last before page p hlast =>
    refine ⟨[page], .single ?_⟩
    rintro ⟨p', hp', hne, hlt⟩
    obtain rfl : p = p' := Except.ok.inj hp'
    exact hlast ⟨UInt32.lt_iff_toNat_lt.2 hlt, hne⟩
  | more before page p rest out hmore hrest ih =>
    obtain ⟨pages, hpages⟩ := ih
    exact ⟨page :: pages, hpages.cons (toNat_add_one_of_lt hmore.1)
      ⟨p, rfl, hmore.2, UInt32.lt_iff_toNat_lt.1 hmore.1⟩⟩

/-- **The walk ends whatever the backend answers.**  A backend is anything that answers calls, from
what it has been asked before too.  The walk asks it for nothing but pages, those with the numbers 1, 2,
3 and so on, each once, and for fewer than there are numbers of 32 bits.  It asks for a further page iff
the last answer has records and tells of one; so it stops with the first page that fails, is empty or is
the last one by its own account.  A page that fails makes the walk fail, and otherwise the units that
have been found are those of all pages asked for, in order. -/
theorem walkPages_ends {σ : Type} (answer : (c : Call) → σ → c.Outcome × σ) (s : σ)
    (filters : MediaFilters) :
    let walk := walkPages filters [] 1
    let exchange := walk.transcript answer s
    ∃ pages : List UInt32,
      exchange.map (·.1) = pages.map (Call.units · serverPageSize filters) ∧
      pages.map (·.toNat) = List.range' 1 pages.length ∧
      1 ≤ pages.length ∧ pages.length ≤ 2 ^ 32 - 1 ∧
      (pageAnswers exchange).length = pages.length ∧
      (∀ k a, (pageAnswers exchange)[k]? = some a →
        (k + 1 < pages.length ↔ TellsOfMore (k + 1) a)) ∧
      Gathered (pageAnswers exchange) (walk.converse answer s).1 := by
  intro walk exchange
  have hends : Ends walk exchange (walk.converse answer s).1 := ends_transcript answer walk s
  obtain ⟨pages, hpages⟩ := exists_walksOver hends
  refine ⟨pages, hpages.calls, hpages.numbers, List.length_pos_iff.2 hpages.ne_nil, ?_,
    hpages.answers, fun k a hk => ?_, (fetched_of_ends_walkPages hends).gathered⟩
  · have hsize : 1 + pages.length ≤ 2 ^ 32 := hpages.le_size
    omega
  · have hiff : k + 1 < pages.length ↔ TellsOfMore (1 + k) a := hpages.goesOn_iff k a hk
    rwa [Nat.add_comm 1 k] at hiff

/-- A page with a record, of as many pages as a backend can claim to have. -/
def abundantPage : Page MediaUnit := ⟨[{ id := ⟨1⟩, title := "A" }], 1, 1, .ofNat (2 ^ 32 - 1)⟩

/-- The answers of a backend that always has this page. -/
def answerAbundantly : (c : Call) → c.Outcome
  | .units .. => .ok abundantPage
  | _ => .error (.channel "closed")

/-- Such a backend is asked for as many pages as it claims to have, so that the bound is met. -/
theorem exists_walk_over_all_numbers (filters : MediaFilters) :
    ∃ exchange us, Ends (walkPages filters [] 1) exchange (.ok us) ∧
      exchange.length = 2 ^ 32 - 1 := by
  obtain ⟨exchange, out, hends, hanswers⟩ :=
    exists_ends_of_answers answerAbundantly (walkPages filters [] 1)
  have hpage : ∀ a ∈ pageAnswers exchange, a = .ok abundantPage := by
    intro a ha
    obtain ⟨⟨c, x⟩, hmem, hsome⟩ := List.mem_filterMap.1 ha
    cases c <;> cases hsome
    exact hanswers _ _ hmem
  have hall : pageAnswers exchange =
      (List.replicate (pageAnswers exchange).length abundantPage).map .ok := by
    rw [List.map_replicate]
    exact List.eq_replicate_of_mem hpage
  obtain rfl := (fetched_of_ends_walkPages hends).gathered.eq_ok_of_eq_map hall
  obtain ⟨pages, hpages⟩ := exists_walksOver hends
  refine ⟨exchange, _, hends, ?_⟩
  have hlength : exchange.length = pages.length := by
    rw [← List.length_map, hpages.calls, List.length_map]
  have hpos := List.length_pos_iff.2 hpages.ne_nil
  have hsize : 1 + pages.length ≤ 2 ^ 32 := hpages.le_size
  -- the last answer tells of more unless its page has the last number
  have hlast : ¬TellsOfMore (1 + (pages.length - 1)) (.ok abundantPage) := by
    have hget : (pageAnswers exchange)[pages.length - 1]? = some (.ok abundantPage) := by
      rw [hall, List.map_replicate, List.getElem?_replicate, if_pos]
      rw [hpages.answers]
      omega
    intro hmore
    have hnext := (hpages.goesOn_iff _ _ hget).2 hmore
    omega
  have hnumber : ¬1 + (pages.length - 1) < 2 ^ 32 - 1 := fun hlt => hlast ⟨_, rfl, nofun, hlt⟩
  omega

end LibraryView

end SubtitleCoverage
