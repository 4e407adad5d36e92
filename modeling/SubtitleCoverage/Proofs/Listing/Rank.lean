import Mathlib.Data.List.Basic
import SubtitleCoverage.Listing.Query

/-!
# The order of a listing

Units are compared by their ranks: the collation key of a text or a number, or nothing.  A unit with
a rank comes before one without in either direction, so the descending order is not the ascending
one turned round.  It is the ascending one with its groups of equal ranks turned round, each group
kept as it is, and the units without a rank left at the end.

## Main definitions

* `MediaUnit.rank u key` — what a unit is compared by.
* `SortValue.Less` — the order of ranks.
* `Precedes descending i j a b` — entry `i` with rank `a` stands before entry `j` with rank `b`.
* `Grouped rank groups tail` — entries in groups of equal ranks, and entries without a rank.

## Main results

* `mayPrecede_total`, `mayPrecede_trans` — **units are compared by a total preorder.**
* `exists_grouped` — entries in ascending order fall into groups.
* `Grouped.descending` — **the same groups in reverse are in descending order.**
-/

namespace SubtitleCoverage

/-! ### Ranks -/

/-- What a unit is compared by, if it has a value for the key: the collation key of a text, or a
number. -/
def MediaUnit.rank (u : MediaUnit) (key : SortKey) : Option SortValue :=
  (u.sortValue key).map SortValue.collated

namespace SortValue

/-- The order of ranks: texts by their characters, numbers as numbers. -/
def Less : SortValue → SortValue → Prop
  | .text a, .text b => a < b
  | .number m, .number n => m < n
  | _, _ => False

/-- Whether a value is a text. -/
def isText : SortValue → Bool
  | .text _ => true
  | .number _ => false

theorem less_irrefl (a : SortValue) : ¬a.Less a := by
  cases a with
  | text s => exact String.lt_irrefl s
  | number n => exact Int.lt_irrefl n

theorem Less.trans {a b c : SortValue} (hab : a.Less b) (hbc : b.Less c) : a.Less c := by
  cases a <;> cases b <;> cases c <;> simp only [Less] at hab hbc ⊢
  · exact String.lt_trans hab hbc
  · exact Int.lt_trans hab hbc

theorem Less.asymm {a b : SortValue} (h : a.Less b) : ¬b.Less a :=
  fun h' => less_irrefl a (h.trans h')

/-- Two texts, or two numbers, can be compared. -/
theorem less_trichotomy {a b : SortValue} (h : a.isText = b.isText) :
    a.Less b ∨ a = b ∨ b.Less a := by
  cases a with
  | text s =>
    cases b with
    | text t =>
      by_cases hst : s < t
      · exact .inl hst
      · by_cases hts : t < s
        · exact .inr (.inr hts)
        · exact .inr (.inl (congrArg text
            (String.le_antisymm (String.not_lt.1 hts) (String.not_lt.1 hst))))
    | number n => cases h
  | number m =>
    cases b with
    | text t => cases h
    | number n =>
      rcases Int.lt_trichotomy m n with hmn | hmn | hmn
      · exact .inl hmn
      · exact .inr (.inl (congrArg number hmn))
      · exact .inr (.inr hmn)

theorem le_iff_not_less {a b : SortValue} (h : a.isText = b.isText) :
    a.le b = true ↔ ¬b.Less a := by
  cases a with
  | text s =>
    cases b with
    | text t => simp [le, Less]
    | number n => cases h
  | number m =>
    cases b with
    | text t => cases h
    | number n => simp [le, Less]

theorem le_iff_less_or_eq {a b : SortValue} (h : a.isText = b.isText) :
    a.le b = true ↔ a.Less b ∨ a = b := by
  rw [le_iff_not_less h]
  constructor
  · intro hnot
    rcases less_trichotomy h with hlt | heq | hlt
    · exact .inl hlt
    · exact .inr heq
    · exact absurd hlt hnot
  · rintro (hlt | rfl)
    · exact hlt.asymm
    · exact less_irrefl a

theorem le_trans {a b c : SortValue} (hab : a.isText = b.isText) (hbc : b.isText = c.isText)
    (h : a.le b = true) (h' : b.le c = true) : a.le c = true := by
  rw [le_iff_less_or_eq hab] at h
  rw [le_iff_less_or_eq hbc] at h'
  rw [le_iff_less_or_eq (hab.trans hbc)]
  rcases h with h | rfl
  · rcases h' with h' | rfl
    · exact .inl (h.trans h')
    · exact .inl h
  · exact h'

theorem le_antisymm {a b : SortValue} (hkind : a.isText = b.isText) (h : a.le b = true)
    (h' : b.le a = true) : a = b := by
  rcases (le_iff_less_or_eq hkind).1 h with hless | heq
  · exact absurd hless ((le_iff_not_less hkind.symm).1 h')
  · exact heq

@[simp] theorem isText_collated (a : SortValue) : a.collated.isText = a.isText := by
  cases a <;> rfl

end SortValue

/-- The values of a key are all texts or all numbers. -/
def SortKey.isText : SortKey → Bool
  | .title | .path | .status => true
  | .season | .episode | .addedAt => false

theorem isText_of_rank {u : MediaUnit} {key : SortKey} {a : SortValue}
    (h : u.rank key = some a) : a.isText = key.isText := by
  obtain ⟨v, hv, rfl⟩ := Option.map_eq_some_iff.1 h
  rw [SortValue.isText_collated]
  cases key with
  | title => cases hv; rfl
  | path => obtain ⟨s, -, rfl⟩ := Option.map_eq_some_iff.1 hv; rfl
  | season => obtain ⟨n, -, rfl⟩ := Option.map_eq_some_iff.1 hv; rfl
  | episode => obtain ⟨n, -, rfl⟩ := Option.map_eq_some_iff.1 hv; rfl
  | status => cases hv; rfl
  | addedAt => obtain ⟨t, -, rfl⟩ := Option.map_eq_some_iff.1 hv; rfl

theorem isText_rank_eq {u v : MediaUnit} {key : SortKey} {a b : SortValue}
    (ha : u.rank key = some a) (hb : v.rank key = some b) : a.isText = b.isText :=
  (isText_of_rank ha).trans (isText_of_rank hb).symm

/-! ### Comparing units -/

/-- Of two units one may stand before the other. -/
theorem mayPrecede_total (key : SortKey) (descending : Bool) (u v : MediaUnit) :
    mayPrecede descending (u.rank key) (v.rank key) = true ∨
      mayPrecede descending (v.rank key) (u.rank key) = true := by
  cases hu : u.rank key with
  | none =>
    cases hv : v.rank key with
    | none => exact .inl rfl
    | some b => exact .inr rfl
  | some a =>
    cases hv : v.rank key with
    | none => exact .inl rfl
    | some b =>
      have hkind := isText_rank_eq hu hv
      have hle : a.le b = true ∨ b.le a = true := by
        rw [SortValue.le_iff_not_less hkind, SortValue.le_iff_not_less hkind.symm]
        by_cases hba : b.Less a
        · exact .inr hba.asymm
        · exact .inl hba
      cases descending with
      | false => exact hle
      | true => exact hle.symm

/-- What may stand before a unit may stand before all that come after it. -/
theorem mayPrecede_trans (key : SortKey) (descending : Bool) {u v w : MediaUnit}
    (huv : mayPrecede descending (u.rank key) (v.rank key) = true)
    (hvw : mayPrecede descending (v.rank key) (w.rank key) = true) :
    mayPrecede descending (u.rank key) (w.rank key) = true := by
  cases hu : u.rank key with
  | none =>
    rw [hu] at huv
    cases hv : v.rank key with
    | none => rwa [hv] at hvw
    | some b =>
      rw [hv] at huv
      cases huv
  | some a =>
    cases hw : w.rank key with
    | none => rfl
    | some c =>
      rw [hu] at huv
      rw [hw] at hvw
      cases hv : v.rank key with
      | none =>
        rw [hv] at hvw
        cases hvw
      | some b =>
        rw [hv] at huv hvw
        have hab := isText_rank_eq hu hv
        have hbc := isText_rank_eq hv hw
        cases descending with
        | false => exact SortValue.le_trans hab hbc huv hvw
        | true => exact SortValue.le_trans hbc.symm hab.symm hvw huv

/-! ### Standing before another -/

/-- Entry `i` with its rank stands before entry `j` with its rank: one with a rank before one
without, else by rank in the direction, and entries of one rank, or without, as they came. -/
def Precedes (descending : Bool) (i j : Nat) : Option SortValue → Option SortValue → Prop
  | some a, some b => (if descending then b.Less a else a.Less b) ∨ (a = b ∧ i < j)
  | some _, none => True
  | none, some _ => False
  | none, none => i < j

theorem Precedes.asymm {descending : Bool} {i j : Nat} {a b : Option SortValue}
    (h : Precedes descending i j a b) : ¬Precedes descending j i b a := by
  intro h'
  cases a with
  | none =>
    cases b with
    | none => exact Nat.lt_asymm h h'
    | some b => exact h
  | some a =>
    cases b with
    | none => exact h'
    | some b =>
      rcases h with h | ⟨rfl, hij⟩
      · rcases h' with h' | ⟨rfl, -⟩
        · cases descending with
          | false => exact SortValue.Less.asymm h h'
          | true => exact SortValue.Less.asymm h h'
        · cases descending with
          | false => exact SortValue.less_irrefl _ h
          | true => exact SortValue.less_irrefl _ h
      · rcases h' with h' | ⟨-, hji⟩
        · cases descending with
          | false => exact SortValue.less_irrefl _ h'
          | true => exact SortValue.less_irrefl _ h'
        · exact Nat.lt_asymm hij hji

/-- The comparison of units, together with the order of those that it does not tell apart, is
standing before another. -/
theorem precedes_of_mayPrecede {key : SortKey} {descending : Bool} {u v : MediaUnit} {i j : Nat}
    (h : mayPrecede descending (u.rank key) (v.rank key) = true)
    (htie : mayPrecede descending (v.rank key) (u.rank key) = true → i < j) :
    Precedes descending i j (u.rank key) (v.rank key) := by
  cases hu : u.rank key with
  | none =>
    rw [hu] at h htie
    cases hv : v.rank key with
    | none =>
      rw [hv] at htie
      exact htie rfl
    | some b =>
      rw [hv] at h
      cases h
  | some a =>
    cases hv : v.rank key with
    | none => trivial
    | some b =>
      rw [hu, hv] at h htie
      have hkind := isText_rank_eq hu hv
      -- values that are not told apart are equal
      have hstrict {x y : SortValue} (hxy : x.isText = y.isText) (hle : x.le y = true)
          (hback : y.le x = true → i < j) : x.Less y ∨ (x = y ∧ i < j) := by
        rcases (SortValue.le_iff_less_or_eq hxy).1 hle with hless | rfl
        · exact .inl hless
        · exact .inr ⟨rfl, hback hle⟩
      cases descending with
      | false => exact hstrict hkind h htie
      | true => exact (hstrict hkind.symm h htie).imp_right fun ⟨heq, hij⟩ => ⟨heq.symm, hij⟩

/-! ### Groups of equal ranks -/

/-- Entries in groups of one rank each, by rank and within a group as they came, and entries
without a rank as they came. -/
structure Grouped (rank : Nat → Option SortValue) (groups : List (List Nat)) (tail : List Nat) :
    Prop where
  nil_not_mem : [] ∉ groups
  same : ∀ g ∈ groups, ∃ a, ∀ i ∈ g, rank i = some a
  ascending : groups.Pairwise fun g h =>
    ∀ i ∈ g, ∀ j ∈ h, ∃ a b, rank i = some a ∧ rank j = some b ∧ a.Less b
  inOrder : ∀ g ∈ groups, g.Pairwise (· < ·)
  tail_rank : ∀ i ∈ tail, rank i = none
  tail_inOrder : tail.Pairwise (· < ·)

variable {rank : Nat → Option SortValue}

theorem Grouped.exists_rank {groups : List (List Nat)} {tail : List Nat}
    (h : Grouped rank groups tail) {g : List Nat} (hg : g ∈ groups) :
    ∃ i ∈ g, ∃ a, rank i = some a := by
  cases hcase : g with
  | nil => exact absurd (hcase ▸ hg) h.nil_not_mem
  | cons i g' =>
    obtain ⟨a, ha⟩ := h.same g hg
    exact ⟨i, List.mem_cons_self, a, ha i (hcase ▸ List.mem_cons_self)⟩

theorem grouped_nil : Grouped rank [] [] :=
  ⟨by simp, by simp, List.Pairwise.nil, by simp, by simp, List.Pairwise.nil⟩

/-- One more entry without a rank in front, where there are no groups. -/
theorem Grouped.cons_tail {tail : List Nat} (h : Grouped rank [] tail) {i : Nat}
    (hi : rank i = none) (hlt : ∀ j ∈ tail, i < j) : Grouped rank [] (i :: tail) := by
  refine { h with tail_rank := ?_, tail_inOrder := List.pairwise_cons.2 ⟨hlt, h.tail_inOrder⟩ }
  intro j hj
  rcases List.mem_cons.1 hj with rfl | hj
  · exact hi
  · exact h.tail_rank j hj

/-- One more entry in front that has a lower rank than all groups. -/
theorem Grouped.cons_new {groups : List (List Nat)} {tail : List Nat}
    (h : Grouped rank groups tail) {i : Nat} {a : SortValue} (hi : rank i = some a)
    (hless : ∀ g ∈ groups, ∀ j ∈ g, ∃ b, rank j = some b ∧ a.Less b) :
    Grouped rank ([i] :: groups) tail := by
  refine { h with nil_not_mem := ?_, same := ?_, ascending := ?_, inOrder := ?_ }
  · intro hmem
    rcases List.mem_cons.1 hmem with hnil | hnil
    · cases hnil
    · exact h.nil_not_mem hnil
  · intro g hg
    rcases List.mem_cons.1 hg with rfl | hg
    · exact ⟨a, fun j hj => (List.mem_singleton.1 hj) ▸ hi⟩
    · exact h.same g hg
  · refine List.pairwise_cons.2 ⟨fun g hg k hk j hj => ?_, h.ascending⟩
    obtain rfl := List.mem_singleton.1 hk
    obtain ⟨b, hb, hlt⟩ := hless g hg j hj
    exact ⟨a, b, hi, hb, hlt⟩
  · intro g hg
    rcases List.mem_cons.1 hg with rfl | hg
    · exact List.pairwise_singleton _ _
    · exact h.inOrder g hg

/-- One more entry in front that has the rank of the first group. -/
theorem Grouped.cons_same {g : List Nat} {groups : List (List Nat)} {tail : List Nat}
    (h : Grouped rank (g :: groups) tail) {i : Nat} {a : SortValue} (hi : rank i = some a)
    (hg : ∀ j ∈ g, rank j = some a) (hlt : ∀ j ∈ g, i < j) :
    Grouped rank ((i :: g) :: groups) tail := by
  obtain ⟨hlater, hascending⟩ := List.pairwise_cons.1 h.ascending
  refine { h with nil_not_mem := ?_, same := ?_, ascending := ?_, inOrder := ?_ }
  · intro hmem
    rcases List.mem_cons.1 hmem with hnil | hnil
    · cases hnil
    · exact h.nil_not_mem (List.mem_cons_of_mem _ hnil)
  · intro g' hg'
    rcases List.mem_cons.1 hg' with rfl | hg'
    · refine ⟨a, fun j hj => ?_⟩
      rcases List.mem_cons.1 hj with rfl | hj
      · exact hi
      · exact hg j hj
    · exact h.same g' (List.mem_cons_of_mem _ hg')
  · refine List.pairwise_cons.2 ⟨fun g' hg' k hk j hj => ?_, hascending⟩
    rcases List.mem_cons.1 hk with rfl | hk
    · -- the first entry of the group has the same rank
      obtain ⟨k', hk', -⟩ := h.exists_rank List.mem_cons_self
      obtain ⟨a', b, ha', hb, hless⟩ := hlater g' hg' k' hk' j hj
      rw [hg k' hk'] at ha'
      exact ⟨a', b, hi.trans ha', hb, hless⟩
    · exact hlater g' hg' k hk j hj
  · intro g' hg'
    rcases List.mem_cons.1 hg' with rfl | hg'
    · exact List.pairwise_cons.2 ⟨hlt, h.inOrder g List.mem_cons_self⟩
    · exact h.inOrder g' (List.mem_cons_of_mem _ hg')

/-- No entry with a rank comes after one without. -/
theorem Grouped.eq_nil_of_rank_eq_none {groups : List (List Nat)} {tail : List Nat}
    (h : Grouped rank groups tail) {i : Nat} (hi : rank i = none)
    (hbefore : ∀ g ∈ groups, ∀ j ∈ g, Precedes false i j (rank i) (rank j)) : groups = [] := by
  rw [List.eq_nil_iff_forall_not_mem]
  intro g hg
  obtain ⟨j, hj, a, ha⟩ := h.exists_rank hg
  have hij := hbefore g hg j hj
  rw [hi, ha] at hij
  exact hij

/-- A rank that is lower than that of the first group is lower than all. -/
theorem Grouped.less_of_less {g : List Nat} {groups : List (List Nat)} {tail : List Nat}
    (h : Grouped rank (g :: groups) tail) {a b : SortValue} (hb : ∀ j ∈ g, rank j = some b)
    (hless : a.Less b) : ∀ g' ∈ g :: groups, ∀ j ∈ g', ∃ c, rank j = some c ∧ a.Less c := by
  intro g' hg' j hj
  rcases List.mem_cons.1 hg' with rfl | hg'
  · exact ⟨b, hb j hj, hless⟩
  · obtain ⟨first, hfirst, -⟩ := h.exists_rank List.mem_cons_self
    obtain ⟨b', c, hb', hc, hlt⟩ :=
      (List.pairwise_cons.1 h.ascending).1 g' hg' first hfirst j hj
    rw [hb first hfirst] at hb'
    cases hb'
    exact ⟨c, hc, hless.trans hlt⟩

/-- One more entry in front that may stand before all groups: it joins the first one or is a group of
its own. -/
theorem Grouped.exists_cons {groups : List (List Nat)} {tail : List Nat}
    (h : Grouped rank groups tail) {i : Nat} {a : SortValue} (hi : rank i = some a)
    (hbefore : ∀ g ∈ groups, ∀ j ∈ g, Precedes false i j (some a) (rank j)) :
    ∃ groups', i :: groups.flatten = groups'.flatten ∧ Grouped rank groups' tail := by
  cases groups with
  | nil => exact ⟨[[i]], rfl, h.cons_new hi (by simp)⟩
  | cons g groups =>
    obtain ⟨b, hb⟩ := h.same g List.mem_cons_self
    have hfirst : ∀ j ∈ g, a.Less b ∨ (a = b ∧ i < j) := by
      intro j hj
      have hij := hbefore g List.mem_cons_self j hj
      rw [hb j hj] at hij
      exact hij
    by_cases hab : a = b
    · subst hab
      refine ⟨(i :: g) :: groups, rfl, h.cons_same hi hb fun j hj => ?_⟩
      rcases hfirst j hj with hless | ⟨-, hij⟩
      · exact absurd hless (SortValue.less_irrefl a)
      · exact hij
    · obtain ⟨j, hj, -⟩ := h.exists_rank List.mem_cons_self
      have hless : a.Less b := (hfirst j hj).resolve_right fun heq => hab heq.1
      exact ⟨[i] :: g :: groups, rfl, h.cons_new hi (h.less_of_less hb hless)⟩

/-- **Entries in ascending order fall into groups.** -/
theorem exists_grouped : ∀ ps : List Nat,
    ps.Pairwise (fun i j => Precedes false i j (rank i) (rank j)) →
    ∃ groups tail, ps = groups.flatten ++ tail ∧ Grouped rank groups tail := by
  intro ps
  induction ps with
  | nil =>
    intro _
    exact ⟨[], [], rfl, grouped_nil⟩
  | cons i ps ih =>
    intro h
    obtain ⟨hi, hps⟩ := List.pairwise_cons.1 h
    obtain ⟨groups, tail, rfl, hgroups⟩ := ih hps
    have hbefore : ∀ g ∈ groups, ∀ j ∈ g, Precedes false i j (rank i) (rank j) :=
      fun g hg j hj => hi j (List.mem_append_left _ (List.mem_flatten_of_mem hg hj))
    cases hrank : rank i with
    | none =>
      obtain rfl := hgroups.eq_nil_of_rank_eq_none hrank hbefore
      refine ⟨[], i :: tail, rfl, hgroups.cons_tail hrank fun j hj => ?_⟩
      have hij := hi j hj
      rw [hrank, hgroups.tail_rank j hj] at hij
      exact hij
    | some a =>
      rw [hrank] at hbefore
      obtain ⟨groups', hflatten, hgroups'⟩ := hgroups.exists_cons hrank hbefore
      exact ⟨groups', tail, congrArg (· ++ tail) hflatten, hgroups'⟩

/-- **The same groups in reverse are in descending order.** -/
theorem Grouped.descending {groups : List (List Nat)} {tail : List Nat}
    (h : Grouped rank groups tail) :
    (groups.reverse.flatten ++ tail).Pairwise
      fun i j => Precedes true i j (rank i) (rank j) := by
  refine List.pairwise_append.2 ⟨List.pairwise_flatten.2 ⟨?_, ?_⟩, ?_, ?_⟩
  · intro g hg
    obtain ⟨a, ha⟩ := h.same g (List.mem_reverse.1 hg)
    refine (h.inOrder g (List.mem_reverse.1 hg)).imp_of_mem ?_
    intro i j hi hj hij
    rw [ha i hi, ha j hj]
    exact .inr ⟨rfl, hij⟩
  · refine List.pairwise_reverse.2 (h.ascending.imp ?_)
    intro g g' hgg' j hj i hi
    obtain ⟨a, b, ha, hb, hlt⟩ := hgg' i hi j hj
    rw [ha, hb]
    exact .inl hlt
  · refine h.tail_inOrder.imp_of_mem ?_
    intro i j hi hj hij
    rw [h.tail_rank i hi, h.tail_rank j hj]
    exact hij
  · intro i hi j hj
    obtain ⟨g, hg, hig⟩ := List.mem_flatten.1 hi
    obtain ⟨a, ha⟩ := h.same g (List.mem_reverse.1 hg)
    rw [ha i hig, h.tail_rank j hj]
    trivial

end SubtitleCoverage
