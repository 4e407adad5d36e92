import SubtitleCoverage.Proofs.Listing.Rank
import SubtitleCoverage.Proofs.Positions

/-!
# The answer to a query

A query answers with some of the units, each as often as it came, in an order that leaves no choice.
Units can be equal, so the answer is described by positions.

## Main definitions

* `MediaUnit.Matches u q` — a unit passes all filters and has the search text.
* `ListQuery.IsAnswer q us ps` — the units at some positions, in their order, answer a query.

## Main results

* `filter_mergeSort` — sorting leaves entries that cannot be told apart as they came.
* `count_apply` — the units that match are in the result as often as they came.
* `IsAnswer.unique` — there is no more than one answer.
* `apply_is_stable_sort` — **the result of a query is its one answer**, the comparison is a total
  preorder, and the other direction turns the groups of equal ranks round.
-/

namespace SubtitleCoverage

open Text

/-! ### Matching -/

theorem containsChars_iff (needle : List Char) :
    ∀ cs : List Char, containsChars needle cs = true ↔ needle <:+: cs := by
  intro cs
  induction cs with
  | nil => simp [containsChars]
  | cons c cs ih =>
    rw [containsChars, Bool.or_eq_true, ih, List.isPrefixOf_iff_prefix, List.infix_cons_iff]

theorem lowerChar_ne_nil (c : Char) : lowerChar c ≠ [] := by
  unfold lowerChar
  split <;> simp

/-- No text is lost in lower case. -/
theorem lowerChars_eq_nil_iff (cs : List Char) : lowerChars cs = [] ↔ cs = [] := by
  cases cs with
  | nil => simp [lowerChars]
  | cons c cs =>
    simp only [lowerChars, lowerFrom, List.append_eq_nil_iff, reduceCtorEq, iff_false]
    rintro ⟨hfirst, -⟩
    split at hfirst
    · cases hfirst
    · exact lowerChar_ne_nil c hfirst

/-- A unit passes all filters, and if the search text is not blank, one of its texts has it in
it. -/
def MediaUnit.Matches (u : MediaUnit) (q : ListQuery) : Prop :=
  (∀ f ∈ q.filters, u.passes f = true) ∧
    (trim q.search ≠ "" → ∃ field ∈ u.searchFields,
      lowerChars (trim q.search).toList <:+: lowerChars field.toList)

theorem keeps_iff_matches (q : ListQuery) (u : MediaUnit) : q.keeps u = true ↔ u.Matches q := by
  rw [ListQuery.keeps, Bool.and_eq_true, List.all_eq_true, MediaUnit.Matches]
  refine and_congr_right fun _ => ?_
  have hblank : searchNeedle q.search = [] ↔ trim q.search = "" := by
    rw [searchNeedle, lowerChars_eq_nil_iff, ← toList_trim, String.toList_eq_nil_iff]
  simp only [MediaUnit.contains, Bool.or_eq_true, List.isEmpty_iff, hblank, List.any_eq_true,
    containsChars_iff, toList_trim]
  exact Classical.or_iff_not_imp_left

/-! ### Sorting -/

/-- Sorting leaves entries that cannot be told apart as they came. -/
theorem filter_mergeSort {α : Type} {le : α → α → Bool}
    (trans : ∀ a b c, le a b = true → le b c = true → le a c = true)
    (total : ∀ a b, (le a b || le b a) = true) (p : α → Bool)
    (htie : ∀ a b, p a = true → p b = true → le a b = true) (xs : List α) :
    (xs.mergeSort le).filter p = xs.filter p := by
  have hpairwise : (xs.filter p).Pairwise fun a b => le a b = true := by
    refine List.pairwise_of_forall_mem_list fun a ha b hb => ?_
    exact htie a b (List.mem_filter.1 ha).2 (List.mem_filter.1 hb).2
  have hsub : (xs.filter p).Sublist ((xs.mergeSort le).filter p) := by
    have h := (List.sublist_mergeSort trans total hpairwise List.filter_sublist).filter p
    simpa only [List.filter_filter, Bool.and_self] using h
  have hlength := ((List.mergeSort_perm xs le).filter p).length_eq
  exact (hsub.eq_of_length hlength.symm).symm

/-! ### Answers -/

namespace ListQuery

/-- Putting units in order neither loses nor makes any. -/
theorem arrange_perm (s : SortSpec) (us : List MediaUnit) : (arrange s us).Perm us := by
  have hsorted := (List.mergeSort_perm (us.map fun u => (u.rank s.key, u))
    fun a b => mayPrecede s.descending a.1 b.1).map Prod.snd
  rw [List.map_map] at hsorted
  have hid : Prod.snd ∘ (fun u : MediaUnit => (u.rank s.key, u)) = id := rfl
  rw [hid, List.map_id] at hsorted
  exact hsorted

/-- The units that match come as often as they came before, the others do not come. -/
theorem count_apply (q : ListQuery) (us : List MediaUnit) (u : MediaUnit) :
    (q.apply us).count u = if q.keeps u then us.count u else 0 := by
  rw [apply, (arrange_perm _ _).count_eq]
  split
  · next hkeeps => exact List.count_filter hkeeps
  · next hkeeps => exact List.count_eq_zero_of_not_mem fun hu => hkeeps (List.mem_filter.1 hu).2

/-- The rank of the unit at a position. -/
def rankAt (us : List MediaUnit) (key : SortKey) (i : Nat) : Option SortValue :=
  us[i]?.bind (·.rank key)

/-- The units at some positions answer a query: they are those that match, each once, and they
stand in the order of the query. -/
structure IsAnswer (q : ListQuery) (us : List MediaUnit) (ps : List Nat) : Prop where
  nodup : ps.Nodup
  mem_iff : ∀ i, i ∈ ps ↔ ∃ u, us[i]? = some u ∧ u.Matches q
  ordered : ps.Pairwise fun i j =>
    Precedes q.sort.descending i j (rankAt us q.sort.key i) (rankAt us q.sort.key j)

/-- **There is no more than one answer.** -/
theorem IsAnswer.unique {q : ListQuery} {us : List MediaUnit} {ps ps' : List Nat}
    (h : q.IsAnswer us ps) (h' : q.IsAnswer us ps') : ps = ps' := by
  have hperm : ps.Perm ps' :=
    (List.perm_ext_iff_of_nodup h.nodup h'.nodup).2 fun i => (h.mem_iff i).trans (h'.mem_iff i).symm
  refine hperm.eq_of_pairwise ?_ h.ordered h'.ordered
  intro i j _ _ hij hji
  exact absurd hji hij.asymm

/-- The units that match, each with its position. -/
def matching (q : ListQuery) (us : List MediaUnit) : List (MediaUnit × Nat) :=
  us.zipIdx.filter fun e => q.keeps e.1

/-- The units that match with their positions, in the order of the query. -/
def arranged (q : ListQuery) (us : List MediaUnit) : List (MediaUnit × Nat) :=
  (q.matching us).mergeSort fun a b =>
    mayPrecede q.sort.descending (a.1.rank q.sort.key) (b.1.rank q.sort.key)

theorem mem_matching {q : ListQuery} {us : List MediaUnit} {u : MediaUnit} {i : Nat} :
    (u, i) ∈ q.matching us ↔ us[i]? = some u ∧ u.Matches q := by
  rw [matching, List.mem_filter, List.mem_zipIdx_iff_getElem?, keeps_iff_matches]

theorem mem_arranged {q : ListQuery} {us : List MediaUnit} {u : MediaUnit} {i : Nat} :
    (u, i) ∈ q.arranged us ↔ us[i]? = some u ∧ u.Matches q := by
  rw [arranged, List.mem_mergeSort, mem_matching]

/-- The units that match come with ascending positions. -/
theorem pairwise_matching (q : ListQuery) (us : List MediaUnit) :
    (q.matching us).Pairwise fun a b => a.2 < b.2 := by
  have hzip : us.zipIdx.Pairwise fun a b => a.2 < b.2 := by
    rw [← List.pairwise_map (f := Prod.snd) (R := (· < ·)), List.zipIdx_map_snd]
    exact List.pairwise_lt_range'
  exact hzip.filter _

/-- The result of a query has the units that match, in the order of the query. -/
theorem apply_eq_map_arranged (q : ListQuery) (us : List MediaUnit) :
    q.apply us = (q.arranged us).map (·.1) := by
  have hmatching : us.filter q.keeps = (q.matching us).map (·.1) := by
    have hzip : (us.zipIdx.map Prod.fst).filter q.keeps = us.filter q.keeps := by
      rw [List.zipIdx_map_fst]
    rw [← hzip, List.filter_map]
    rfl
  let ranked : MediaUnit × Nat → Option SortValue × MediaUnit :=
    fun e => (e.1.rank q.sort.key, e.1)
  have hranked : (q.arranged us).map ranked = ((q.matching us).map ranked).mergeSort
      fun a b => mayPrecede q.sort.descending a.1 b.1 :=
    List.map_mergeSort fun _ _ _ _ => rfl
  calc q.apply us
      = (((q.matching us).map ranked).mergeSort
          fun a b => mayPrecede q.sort.descending a.1 b.1).map (·.2) := by
        rw [apply, hmatching, arrange, List.map_map]
        rfl
    _ = ((q.arranged us).map ranked).map (·.2) := by rw [hranked]
    _ = (q.arranged us).map (·.1) := by
        rw [List.map_map]
        rfl

/-- **The order of a query**: by rank, and where ranks do not decide, as the units came. -/
theorem pairwise_arranged (q : ListQuery) (us : List MediaUnit) :
    (q.arranged us).Pairwise fun a b =>
      Precedes q.sort.descending a.2 b.2 (a.1.rank q.sort.key) (b.1.rank q.sort.key) := by
  let le := fun a b : MediaUnit × Nat =>
    mayPrecede q.sort.descending (a.1.rank q.sort.key) (b.1.rank q.sort.key)
  have htrans : ∀ a b c, le a b = true → le b c = true → le a c = true :=
    fun a b c => mayPrecede_trans q.sort.key q.sort.descending
  have htotal : ∀ a b, (le a b || le b a) = true := by
    intro a b
    rw [Bool.or_eq_true]
    exact mayPrecede_total q.sort.key q.sort.descending a.1 b.1
  have hrefl : ∀ a, le a a = true := fun a => (Bool.or_self _).symm.trans (htotal a a)
  rw [List.pairwise_iff_forall_sublist]
  intro a b hab
  have hle : le a b = true :=
    List.pairwise_iff_forall_sublist.1
      (List.pairwise_mergeSort htrans htotal (q.matching us)) hab
  refine precedes_of_mayPrecede hle fun hback => ?_
  -- units that are not told apart from `a` stand as they came, and `b` is one of them
  let p := fun e => le a e && le e a
  have htie : ∀ x y, p x = true → p y = true → le x y = true := by
    intro x y hx hy
    exact htrans x a y (Bool.and_eq_true_iff.1 hx).2 (Bool.and_eq_true_iff.1 hy).1
  have hfilter : (q.arranged us).filter p = (q.matching us).filter p :=
    filter_mergeSort htrans htotal p htie (q.matching us)
  have hp : [a, b].filter p = [a, b] := by
    rw [List.filter_eq_self]
    intro e he
    rcases List.mem_cons.1 he with rfl | he
    · exact Bool.and_eq_true_iff.2 ⟨hrefl e, hrefl e⟩
    · obtain rfl := List.mem_singleton.1 he
      exact Bool.and_eq_true_iff.2 ⟨hle, hback⟩
  have hsub : [a, b].Sublist (q.matching us) := by
    have h := hab.filter p
    rw [hp, hfilter] at h
    exact h.trans List.filter_sublist
  exact List.pairwise_iff_forall_sublist.1 (pairwise_matching q us) hsub

/-- The positions of a result are an answer. -/
theorem isAnswer_arranged (q : ListQuery) (us : List MediaUnit) :
    q.IsAnswer us ((q.arranged us).map (·.2)) where
  nodup := by
    have hperm := (List.mergeSort_perm (q.matching us) fun a b =>
      mayPrecede q.sort.descending (a.1.rank q.sort.key) (b.1.rank q.sort.key)).map Prod.snd
    refine hperm.nodup_iff.2 (List.pairwise_map.2 ((pairwise_matching q us).imp ?_))
    intro a b hlt
    exact Nat.ne_of_lt hlt
  mem_iff i := by
    simp only [List.mem_map, Prod.exists, exists_eq_right, mem_arranged]
  ordered := by
    refine List.pairwise_map.2 ((pairwise_arranged q us).imp_of_mem ?_)
    intro a b ha hb hab
    rw [rankAt, (mem_arranged.1 ha).1, rankAt, (mem_arranged.1 hb).1]
    exact hab

/-- The result of a query has the units at the positions of its answer. -/
theorem IsAnswer.apply_eq {q : ListQuery} {us : List MediaUnit} {ps : List Nat}
    (h : q.IsAnswer us ps) : q.apply us = pick us ps := by
  rw [h.unique (isAnswer_arranged q us), apply_eq_map_arranged,
    pick_map_snd fun e he => (mem_arranged.1 he).1]

/-! ### The other direction -/

/-- Groups of equal ranks in reverse answer the query in the other direction. -/
theorem IsAnswer.descending {filters : List Filter} {key : SortKey} {search : String}
    {us : List MediaUnit} {groups : List (List Nat)} {tail : List Nat}
    (h : IsAnswer ⟨filters, ⟨key, false⟩, search⟩ us (groups.flatten ++ tail))
    (hgroups : Grouped (rankAt us key) groups tail) :
    IsAnswer ⟨filters, ⟨key, true⟩, search⟩ us (groups.reverse.flatten ++ tail) := by
  have hperm : (groups.reverse.flatten ++ tail).Perm (groups.flatten ++ tail) :=
    (List.reverse_perm groups).flatten.append_right tail
  refine ⟨hperm.nodup_iff.2 h.nodup, fun i => ?_, hgroups.descending⟩
  rw [hperm.mem_iff]
  exact h.mem_iff i

/-- **The result of a query is its one answer**: the units that match, each once, by rank in the
direction of the query, those without a rank last, and as they came where ranks do not decide.  The
comparison behind it is a total preorder for every key and direction.  In the other direction the
groups of equal ranks come in reverse; the groups, and the units without a rank, stay as they
are. -/
theorem apply_is_stable_sort (us : List MediaUnit) (filters : List Filter) (key : SortKey)
    (search : String) :
    (∀ descending, let q : ListQuery := ⟨filters, ⟨key, descending⟩, search⟩
      ∃ ps, q.IsAnswer us ps ∧ q.apply us = pick us ps ∧ ∀ ps', q.IsAnswer us ps' → ps' = ps) ∧
    (∀ descending,
      (∀ u v : MediaUnit, mayPrecede descending (u.rank key) (v.rank key) = true ∨
        mayPrecede descending (v.rank key) (u.rank key) = true) ∧
      ∀ u v w : MediaUnit, mayPrecede descending (u.rank key) (v.rank key) = true →
        mayPrecede descending (v.rank key) (w.rank key) = true →
        mayPrecede descending (u.rank key) (w.rank key) = true) ∧
    ∃ groups tail, Grouped (rankAt us key) groups tail ∧
      apply ⟨filters, ⟨key, false⟩, search⟩ us = pick us (groups.flatten ++ tail) ∧
      apply ⟨filters, ⟨key, true⟩, search⟩ us = pick us (groups.reverse.flatten ++ tail) := by
  refine ⟨fun descending => ?_, fun descending => ?_, ?_⟩
  · intro q
    have h := isAnswer_arranged q us
    exact ⟨_, h, h.apply_eq, fun ps' h' => h'.unique h⟩
  · exact ⟨mayPrecede_total key descending,
      fun u v w => mayPrecede_trans key descending⟩
  · have h := isAnswer_arranged ⟨filters, ⟨key, false⟩, search⟩ us
    obtain ⟨groups, tail, hps, hgroups⟩ := exists_grouped _ h.ordered
    rw [hps] at h
    exact ⟨groups, tail, hgroups, h.apply_eq, (h.descending hgroups).apply_eq⟩

/-- Equal seasons stay as they came, and the unit without one stays last in either direction. -/
example :
    let u (id : Int64) (season : Option Int32) : MediaUnit := { id := ⟨id⟩, title := "", season }
    let us := [u 1 (some 2), u 2 (some 1), u 3 none, u 4 (some 1)]
    (apply ⟨[], ⟨.season, false⟩, ""⟩ us).map (·.id.value) = [2, 4, 1, 3] ∧
      (apply ⟨[], ⟨.season, true⟩, " "⟩ us).map (·.id.value) = [1, 2, 4, 3] := by
  constructor <;> cbv

end ListQuery

end SubtitleCoverage
