import SubtitleCoverage.Proofs.Listing.Answer

/-!
# Queries one after the other

A list in order is determined by its groups of equal ranks: it has the groups in order, and each group as
it came.  So what is put in order again, by the same key or by another one, keeps all ties as they were,
and it makes no difference whether units are left out before the others are put in order or after.

## Main results

* `eq_of_pairwise_of_filter_eq` — a list in order is determined by its groups.
* `ListQuery.eq_arrange_iff` — **the order of a query is the one that keeps the groups.**
* `ListQuery.filter_arrange`, `ListQuery.arrange_arrange` — units are left out before or after, and a
  list in order stays as it is.
* `ListQuery.apply_after_apply` — **what comes of a query on the result of another one.**
-/

namespace SubtitleCoverage

/-! ### Lists in order -/

section

variable {α κ : Type} [DecidableEq κ] {key : α → κ} {xs ys : List α}

/-- Lists with the same groups have the same members. -/
theorem mem_iff_of_filter_eq
    (h : ∀ k, xs.filter (fun a => key a = k) = ys.filter fun a => key a = k) (a : α) :
    a ∈ xs ↔ a ∈ ys := by
  have hgroup : a ∈ xs.filter (fun b => key b = key a) ↔ a ∈ ys.filter fun b => key b = key a := by
    rw [h]
  simpa using hgroup

/-- **A list in order is determined by its groups** of equal keys. -/
theorem eq_of_pairwise_of_filter_eq {R : κ → κ → Prop}
    (antisymm : ∀ a b, R (key a) (key b) → R (key b) (key a) → key a = key b)
    (hxs : xs.Pairwise fun a b => R (key a) (key b)) (hys : ys.Pairwise fun a b => R (key a) (key b))
    (h : ∀ k, xs.filter (fun a => key a = k) = ys.filter fun a => key a = k) : xs = ys := by
  induction xs generalizing ys with
  | nil =>
    refine (List.eq_nil_iff_forall_not_mem.2 fun a ha => ?_).symm
    exact List.not_mem_nil ((mem_iff_of_filter_eq h a).2 ha)
  | cons x xs ih =>
    cases ys with
    | nil => exact absurd ((mem_iff_of_filter_eq h x).1 List.mem_cons_self) List.not_mem_nil
    | cons y ys =>
      obtain ⟨hx, hxs'⟩ := List.pairwise_cons.1 hxs
      obtain ⟨hy, hys'⟩ := List.pairwise_cons.1 hys
      -- each of the two heads is in the other list, so none of them has to stand behind the other
      have hkey : key y = key x := by
        rcases List.mem_cons.1 ((mem_iff_of_filter_eq h x).1 List.mem_cons_self) with hxy | hxy
        · rw [hxy]
        · rcases List.mem_cons.1 ((mem_iff_of_filter_eq h y).2 List.mem_cons_self) with hyx | hyx
          · rw [hyx]
          · exact antisymm y x (hy x hxy) (hx y hyx)
      have hgroup := h (key x)
      simp only [List.filter_cons, hkey, decide_true, if_true, List.cons.injEq] at hgroup
      obtain ⟨rfl, -⟩ := hgroup
      have hrest : ∀ k, xs.filter (fun a => key a = k) = ys.filter fun a => key a = k := by
        intro k
        have hk := h k
        rw [List.filter_cons, List.filter_cons] at hk
        split at hk
        · exact (List.cons.inj hk).2
        · exact hk
      exact congrArg (x :: ·) (ih hxs' hys' hrest)

end

/-- Units of which each may stand before the other have the same rank. -/
theorem rank_eq_of_mayPrecede {key : SortKey} {descending : Bool} {u v : MediaUnit}
    (huv : mayPrecede descending (u.rank key) (v.rank key) = true)
    (hvu : mayPrecede descending (v.rank key) (u.rank key) = true) : u.rank key = v.rank key := by
  cases hu : u.rank key with
  | none =>
    cases hv : v.rank key with
    | none => rfl
    | some b => rw [hu, hv] at huv; contradiction
  | some a =>
    cases hv : v.rank key with
    | none => rw [hu, hv] at hvu; contradiction
    | some b =>
      rw [hu, hv] at huv hvu
      have hkind := isText_rank_eq hu hv
      cases descending with
      | false => exact congrArg some (SortValue.le_antisymm hkind huv hvu)
      | true => exact congrArg some (SortValue.le_antisymm hkind hvu huv)

/-! ### The order of a query -/

namespace SortSpec

/-- Whether one unit may stand before another one. -/
def allows (s : SortSpec) (u v : MediaUnit) : Bool :=
  mayPrecede s.descending (u.rank s.key) (v.rank s.key)

variable (s : SortSpec)

theorem allows_trans (u v w : MediaUnit) (huv : s.allows u v = true) (hvw : s.allows v w = true) :
    s.allows u w = true :=
  mayPrecede_trans s.key s.descending huv hvw

theorem allows_total (u v : MediaUnit) : (s.allows u v || s.allows v u) = true :=
  Bool.or_eq_true_iff.2 (mayPrecede_total s.key s.descending u v)

theorem allows_of_rank_eq {u v : MediaUnit} (h : u.rank s.key = v.rank s.key) :
    s.allows u v = true := by
  have htotal := mayPrecede_total s.key s.descending u v
  rw [h, or_self] at htotal
  rwa [allows, h]

end SortSpec

namespace ListQuery

variable (s : SortSpec) (us : List MediaUnit)

/-- Units are sorted by their ranks. -/
theorem arrange_eq_mergeSort : arrange s us = us.mergeSort s.allows := by
  let ranked : MediaUnit → Option SortValue × MediaUnit := fun u => (u.rank s.key, u)
  have hranked : (us.mergeSort s.allows).map ranked =
      (us.map ranked).mergeSort fun a b => mayPrecede s.descending a.1 b.1 :=
    List.map_mergeSort fun _ _ _ _ => rfl
  calc arrange s us
      = ((us.map ranked).mergeSort fun a b => mayPrecede s.descending a.1 b.1).map (·.2) := rfl
    _ = us.mergeSort s.allows := by
        rw [← hranked, List.map_map]
        exact List.map_id _

theorem pairwise_arrange : (arrange s us).Pairwise fun u v => s.allows u v = true := by
  rw [arrange_eq_mergeSort]
  exact List.pairwise_mergeSort s.allows_trans s.allows_total us

/-- **Ties stay as they were**: the units of one rank come as they came before. -/
theorem filter_rank_arrange (rank : Option SortValue) :
    (arrange s us).filter (fun u => u.rank s.key = rank) =
      us.filter fun u => u.rank s.key = rank := by
  rw [arrange_eq_mergeSort]
  refine filter_mergeSort s.allows_trans s.allows_total _ (fun u v hu hv => ?_) us
  exact s.allows_of_rank_eq ((of_decide_eq_true hu).trans (of_decide_eq_true hv).symm)

variable {s us}

/-- **The order of a query is the one that keeps the groups** of equal ranks as they came. -/
theorem eq_arrange_iff {vs : List MediaUnit} :
    vs = arrange s us ↔ vs.Pairwise (fun u v => s.allows u v = true) ∧
      ∀ rank, vs.filter (fun u => u.rank s.key = rank) = us.filter fun u => u.rank s.key = rank := by
  constructor
  · rintro rfl
    exact ⟨pairwise_arrange s us, filter_rank_arrange s us⟩
  · rintro ⟨hpairwise, hgroups⟩
    refine eq_of_pairwise_of_filter_eq (R := fun a b => mayPrecede s.descending a b = true)
      (fun u v => rank_eq_of_mayPrecede) hpairwise (pairwise_arrange s us) fun rank => ?_
    rw [hgroups, filter_rank_arrange]

variable (s us)

/-- **Units are left out before the others are put in order, or after.** -/
theorem filter_arrange (p : MediaUnit → Bool) :
    (arrange s us).filter p = arrange s (us.filter p) := by
  refine eq_arrange_iff.2 ⟨(pairwise_arrange s us).filter p, fun rank => ?_⟩
  rw [List.filter_comm, filter_rank_arrange, List.filter_comm]

/-- **A list in order stays as it is** when it is put in order again. -/
theorem arrange_arrange : arrange s (arrange s us) = arrange s us :=
  (eq_arrange_iff.2 ⟨pairwise_arrange s us, fun _ => rfl⟩).symm

/-! ### Queries on results -/

variable (q next : ListQuery)

/-- A query in the order of the one before keeps the units that both keep. -/
theorem apply_apply_of_sort_eq (h : next.sort = q.sort) :
    next.apply (q.apply us) = arrange q.sort (us.filter fun u => next.keeps u && q.keeps u) := by
  rw [apply, apply, h, filter_arrange, arrange_arrange, List.filter_filter]

/-- Of the filters of a query only the members matter. -/
theorem keeps_congr {filters : List Filter} (h : ∀ f, f ∈ filters ↔ f ∈ q.filters) :
    { q with filters }.keeps = q.keeps := by
  funext u
  have hall : filters.all u.passes = q.filters.all u.passes := by
    rw [Bool.eq_iff_iff, List.all_eq_true, List.all_eq_true]
    exact forall_congr' fun f => imp_congr_left (h f)
  rw [keeps, keeps, hall]

/-- What two lists of filters keep, each with the same search. -/
theorem keeps_append (more : List Filter) (u : MediaUnit) :
    { q with filters := q.filters ++ more }.keeps u =
      ({ q with filters := more }.keeps u && q.keeps u) := by
  simp only [keeps, List.all_append]
  cases q.filters.all u.passes <;> cases more.all u.passes <;> cases u.contains q.search <;> rfl

/-- A query keeps all of a result if it has the same filters and the same search. -/
theorem filter_keeps_apply (hfilters : next.filters = q.filters) (hsearch : next.search = q.search) :
    (q.apply us).filter next.keeps = q.apply us := by
  have hkeeps : next.keeps = q.keeps := by
    funext u
    rw [keeps, keeps, hfilters, hsearch]
  rw [apply, filter_arrange, List.filter_filter, hkeeps]
  simp only [Bool.and_self]

/-- **What comes of a query on the result of another one.**  Applied again, a query changes nothing.  The
order of its filters does not matter, nor how often each of them is there, and filters can be applied one
list after the other.  Any other query orders the rows by its own key and leaves those of equal rank, or
without one, as they were: each group is what the query keeps of the group before.  No row is lost if only
the order is another one. -/
theorem apply_after_apply :
    q.apply (q.apply us) = q.apply us ∧
    (∀ filters, (∀ f, f ∈ filters ↔ f ∈ q.filters) → { q with filters }.apply us = q.apply us) ∧
    (∀ more, { q with filters := more }.apply (q.apply us) =
      { q with filters := q.filters ++ more }.apply us) ∧
    ∀ next : ListQuery, let rows := q.apply us; let again := next.apply rows
      (∃ ps, next.IsAnswer rows ps ∧ again = pick rows ps) ∧
      (∀ rank, again.filter (fun u => u.rank next.sort.key = rank) =
        (rows.filter next.keeps).filter fun u => u.rank next.sort.key = rank) ∧
      (next.filters = q.filters → next.search = q.search → rows.filter next.keeps = rows) := by
  refine ⟨?_, fun filters h => ?_, fun more => ?_, fun next => ⟨?_, ?_, ?_⟩⟩
  · rw [apply_apply_of_sort_eq us q q rfl]
    simp only [Bool.and_self]
    rfl
  · rw [apply, keeps_congr q h]
    rfl
  · rw [apply_apply_of_sort_eq us q { q with filters := more } rfl]
    exact congrArg _ (List.filter_congr fun u _ => (keeps_append q more u).symm)
  · exact ⟨_, isAnswer_arranged next _, (isAnswer_arranged next _).apply_eq⟩
  · exact filter_rank_arrange next.sort _
  · exact filter_keeps_apply us q next

end ListQuery

end SubtitleCoverage
