import Mathlib.Algebra.Order.Ring.Nat
import SubtitleCoverage.Listing.Page
import SubtitleCoverage.Proofs.Numbers

/-!
# Pages and the records on them

A page is in range if the list has it.  The paginator comes to a page in range whenever it looks at
the list, and stays there as long as the list does not lose that page.

## Main definitions

* `Paginator.InRange p n` — a list with `n` records has the current page.
* `Paginator.pageAt p k xs` — the records on the `k`-th page of a list.
* `Paginator.start`, `stop` — where the current page begins and ends.

## Main results

* `lt_pageCount_iff` — there is a further page iff the pages so far do not hold all records.
* `inRange_setPage`, `inRange_clamp` — the pages that the paginator comes to.
* `flatMap_pageAt` — all pages together hold each record once.
* `InRange.toNat_start`, `InRange.toNat_start_add` — nothing overflows where a page is looked for.
* `slice_eq` — what is shown of a list are the records on the page that the paginator comes to.
* `slice_slice` — what is shown of a list is shown again when it is looked at again.
-/

namespace SubtitleCoverage

namespace Paginator

/-! ### The number of pages -/

theorem toNat_pageCount (p : Paginator) (n : UInt64) :
    (p.pageCount n).toNat = max (if n.toNat % p.pageSize.toNat = 0 then n.toNat / p.pageSize.toNat
      else n.toNat / p.pageSize.toNat + 1) 1 := by
  have hsize : 1 ≤ p.pageSize.toNat := UInt64.le_iff_toNat_le.1 p.pageSize_pos
  have hrest : n % p.pageSize = 0 ↔ n.toNat % p.pageSize.toNat = 0 := by
    rw [← UInt64.toNat_inj, UInt64.toNat_mod]
    rfl
  rw [pageCount, toNat_max]
  by_cases h : n.toNat % p.pageSize.toNat = 0
  · rw [if_pos (hrest.2 h), if_pos h, UInt64.toNat_div]
    rfl
  · -- pages of one record each leave no rest, so the number of whole pages can be increased
    have hne : p.pageSize.toNat ≠ 1 := fun hone => h (by rw [hone, Nat.mod_one])
    have hhalf : n.toNat / p.pageSize.toNat ≤ n.toNat / 2 := Nat.div_le_div_left (by omega) (by omega)
    have hsum : n.toNat / p.pageSize.toNat + 1 < 2 ^ 64 := by
      have hn := n.toNat_lt
      omega
    rw [if_neg fun h' => h (hrest.1 h'), if_neg h, UInt64.toNat_add, UInt64.toNat_div]
    exact congrArg (max · 1) (Nat.mod_eq_of_lt hsum)

/-- **There is a further page iff the pages so far do not hold all records**, apart from the first
page, which is always there. -/
theorem lt_pageCount_iff (p : Paginator) (n : UInt64) {k : Nat} (hk : 1 ≤ k) :
    k < (p.pageCount n).toNat ↔ k * p.pageSize.toNat < n.toNat := by
  have hsize : 0 < p.pageSize.toNat := UInt64.le_iff_toNat_le.1 p.pageSize_pos
  have hdiv := Nat.div_add_mod n.toNat p.pageSize.toNat
  rw [toNat_pageCount]
  by_cases h : n.toNat % p.pageSize.toNat = 0
  · have hwhole : k < n.toNat / p.pageSize.toNat ↔ k * p.pageSize.toNat < n.toNat := by
      rw [h, Nat.add_zero] at hdiv
      conv => rhs; rw [← hdiv, Nat.mul_comm]
      exact (Nat.mul_lt_mul_left hsize).symm
    rw [if_pos h, ← hwhole]
    omega
  · -- the pages so far do not end where the list ends
    have hne : k * p.pageSize.toNat ≠ n.toNat := fun heq => h (by rw [← heq, Nat.mul_mod_left])
    have hle : k ≤ n.toNat / p.pageSize.toNat ↔ k * p.pageSize.toNat ≤ n.toNat :=
      Nat.le_div_iff_mul_le hsize
    rw [if_neg h]
    omega

/-- A longer list has no fewer pages. -/
theorem pageCount_mono (p : Paginator) {n n' : UInt64} (h : n ≤ n') :
    p.pageCount n ≤ p.pageCount n' := by
  rw [UInt64.le_iff_toNat_le] at h ⊢
  refine Nat.le_of_not_lt fun hlt => ?_
  have hone : 1 ≤ (p.pageCount n').toNat := UInt64.le_iff_toNat_le.1 (p.one_le_pageCount n')
  have hmore := (p.lt_pageCount_iff n hone).1 (by omega)
  have hless := mt (p.lt_pageCount_iff n' hone).2 (by omega)
  omega

/-! ### Pages in range -/

/-- A list with `n` records has the current page. -/
def InRange (p : Paginator) (n : UInt64) : Prop := p.page ≤ p.pageCount n

/-- A page is not lost by a list that gets longer. -/
theorem InRange.mono {p : Paginator} {n n' : UInt64} (h : p.InRange n) (hle : n ≤ n') :
    p.InRange n' := UInt64.le_trans h (p.pageCount_mono hle)

@[simp] theorem pageSize_clamp (p : Paginator) (n : UInt64) : (p.clamp n).pageSize = p.pageSize := by
  unfold clamp
  split <;> rfl

@[simp] theorem pageSize_setPage (p : Paginator) (page n : UInt64) :
    (p.setPage page n).pageSize = p.pageSize := by
  unfold setPage
  split
  · rfl
  · split <;> rfl

theorem pageCount_eq {p p' : Paginator} (h : p'.pageSize = p.pageSize) (n : UInt64) :
    p'.pageCount n = p.pageCount n := by
  unfold pageCount
  rw [h]

/-- The paginator goes to the page nearest to the current one that the list has. -/
theorem toNat_page_clamp (p : Paginator) (n : UInt64) :
    (p.clamp n).page.toNat = min p.page.toNat (p.pageCount n).toNat := by
  unfold clamp
  split
  · next h =>
    rw [UInt64.lt_iff_toNat_lt] at h
    show (p.pageCount n).toNat = _
    omega
  · next h =>
    rw [UInt64.lt_iff_toNat_lt] at h
    omega

theorem inRange_clamp (p : Paginator) (n : UInt64) : (p.clamp n).InRange n := by
  rw [InRange, pageCount_eq (p.pageSize_clamp n), UInt64.le_iff_toNat_le, toNat_page_clamp]
  exact Nat.min_le_right ..

theorem inRange_setPage (p : Paginator) (page n : UInt64) : (p.setPage page n).InRange n := by
  rw [InRange, pageCount_eq (p.pageSize_setPage page n)]
  unfold setPage
  split
  · next h => exact h.2
  · split
    · exact p.one_le_pageCount n
    · exact UInt64.le_refl _

/-- A page that the list has is gone to. -/
theorem page_setPage {p : Paginator} {page n : UInt64} (h : 1 ≤ page) (hle : page ≤ p.pageCount n) :
    (p.setPage page n).page = page := by
  rw [setPage, dif_pos ⟨h, hle⟩]

/-- Where the paginator goes does not depend on where it stands. -/
theorem setPage_setPage (p : Paginator) (page page' n : UInt64) :
    (p.setPage page n).setPage page' n = p.setPage page' n := by
  obtain ⟨k, hk, heq⟩ :
      ∃ k, ∃ hk : 1 ≤ k, p.setPage page n = { p with page := k, page_pos := hk } := by
    unfold setPage
    split
    · next h => exact ⟨page, h.1, rfl⟩
    · split
      · exact ⟨1, UInt64.le_refl 1, rfl⟩
      · exact ⟨p.pageCount n, p.one_le_pageCount n, rfl⟩
  rw [heq]
  rfl

/-- A page that the list has is left as it is. -/
theorem clamp_of_inRange {p : Paginator} {n : UInt64} (h : p.InRange n) : p.clamp n = p := by
  rw [clamp, if_neg (UInt64.not_lt.2 h)]

@[simp] theorem clamp_clamp (p : Paginator) (n : UInt64) : (p.clamp n).clamp n = p.clamp n :=
  clamp_of_inRange (p.inRange_clamp n)

/-! ### The records on a page -/

/-- The records on the `k`-th page of a list. -/
def pageAt {α : Type} (p : Paginator) (k : Nat) (xs : List α) : List α :=
  (xs.drop ((k - 1) * p.pageSize.toNat)).take p.pageSize.toNat

/-- The first pages hold the first records. -/
theorem take_eq_flatMap_pageAt {α : Type} (p : Paginator) (xs : List α) (count : Nat) :
    xs.take (count * p.pageSize.toNat) =
      (List.range count).flatMap fun k => p.pageAt (k + 1) xs := by
  induction count with
  | zero => rw [Nat.zero_mul, List.take_zero, List.range_zero, List.flatMap_nil]
  | succ count ih =>
    rw [Nat.succ_mul, List.take_add, ih, List.range_succ, List.flatMap_append,
      List.flatMap_singleton]
    rfl

/-- **All pages together hold each record once**, in the order of the list. -/
theorem flatMap_pageAt {α : Type} (p : Paginator) {xs : List α} (h : xs.length < 2 ^ 64) :
    ((List.range (p.pageCount (UInt64.ofNat xs.length)).toNat).flatMap fun k =>
      p.pageAt (k + 1) xs) = xs := by
  have hlength : (UInt64.ofNat xs.length).toNat = xs.length := Nat.mod_eq_of_lt h
  have hone := UInt64.le_iff_toNat_le.1 (p.one_le_pageCount (UInt64.ofNat xs.length))
  -- there is no page after the last one, so it does not end before the list does
  have hend := mt (p.lt_pageCount_iff (UInt64.ofNat xs.length) hone).2 (Nat.lt_irrefl _)
  rw [hlength] at hend
  rw [← take_eq_flatMap_pageAt, List.take_of_length_le (Nat.le_of_not_lt hend)]

/-- The current page is the first one, or it begins before the list ends. -/
theorem InRange.first_or {p : Paginator} {n : UInt64} (h : p.InRange n) :
    p.page.toNat - 1 = 0 ∨ (p.page.toNat - 1) * p.pageSize.toNat < n.toNat := by
  rw [InRange, UInt64.le_iff_toNat_le] at h
  by_cases hfirst : p.page.toNat - 1 = 0
  · exact .inl hfirst
  · exact .inr ((p.lt_pageCount_iff n (k := p.page.toNat - 1) (by omega)).1 (by omega))

/-- No page of a list begins beyond its end. -/
theorem InRange.first_le {p : Paginator} {n : UInt64} (h : p.InRange n) :
    (p.page.toNat - 1) * p.pageSize.toNat ≤ n.toNat := by
  rcases h.first_or with hfirst | hlt
  · rw [hfirst, Nat.zero_mul]
    exact Nat.zero_le _
  · exact Nat.le_of_lt hlt

/-! ### Where a page begins and ends -/

/-- Where the current page begins in a list. -/
def start (p : Paginator) : UInt64 := (p.page - 1) * p.pageSize

/-- Where the current page ends in a list with `n` records. -/
def stop (p : Paginator) (n : UInt64) : UInt64 := min (p.start + p.pageSize) n

/-- **The place where a page in range begins does not overflow.** -/
theorem InRange.toNat_start {p : Paginator} {n : UInt64} (h : p.InRange n) :
    p.start.toNat = (p.page.toNat - 1) * p.pageSize.toNat := by
  rw [start, UInt64.toNat_mul, UInt64.toNat_sub_of_le _ _ p.page_pos]
  exact Nat.mod_eq_of_lt (Nat.lt_of_le_of_lt h.first_le n.toNat_lt)

/-- **The place where a full page in range ends does not overflow**, if the list is shorter than
`2 ^ 63`. -/
theorem InRange.toNat_start_add {p : Paginator} {n : UInt64} (h : p.InRange n)
    (hn : n.toNat < 2 ^ 63) :
    (p.start + p.pageSize).toNat = p.start.toNat + p.pageSize.toNat := by
  have hfirst := h.first_le
  rw [UInt64.toNat_add, h.toNat_start]
  refine Nat.mod_eq_of_lt ?_
  -- a page of more than half of all numbers is the first one
  rcases Nat.eq_zero_or_pos (p.page.toNat - 1) with hzero | hpos
  · have hsize := p.pageSize.toNat_lt
    rw [hzero]
    omega
  · have hmul : p.pageSize.toNat ≤ (p.page.toNat - 1) * p.pageSize.toNat :=
      Nat.le_mul_of_pos_left _ hpos
    omega

theorem toNat_stop_le (p : Paginator) (n : UInt64) : (p.stop n).toNat ≤ n.toNat := by
  rw [stop, toNat_min]
  exact Nat.min_le_right ..

theorem InRange.start_le_stop {p : Paginator} {n : UInt64} (h : p.InRange n)
    (hn : n.toNat < 2 ^ 63) : p.start ≤ p.stop n := by
  have hfirst := h.first_le
  rw [UInt64.le_iff_toNat_le, stop, toNat_min, h.toNat_start_add hn, h.toNat_start]
  omega

/-- The length of a list that is shorter than `2 ^ 63` is a number of the machine. -/
theorem toNat_ofNat_length {α : Type} {xs : List α} (h : xs.length < 2 ^ 63) :
    (UInt64.ofNat xs.length).toNat = xs.length :=
  Nat.mod_eq_of_lt (Nat.lt_of_lt_of_le h (by decide))

/-- **What is shown of a list are the records on the page that the paginator comes to.**  Nothing
overflows on the way if the list is shorter than `2 ^ 63`. -/
theorem slice_eq {α : Type} (p : Paginator) {xs : List α} (h : xs.length < 2 ^ 63) :
    let n := UInt64.ofNat xs.length
    p.slice xs = (p.clamp n, p.pageAt (min p.page.toNat (p.pageCount n).toNat) xs) := by
  intro n
  have hlength : n.toNat = xs.length := toNat_ofNat_length h
  have hn : n.toNat < 2 ^ 63 := by rwa [hlength]
  have hrange := p.inRange_clamp n
  refine Prod.ext rfl ?_
  show between xs (p.clamp n).start ((p.clamp n).stop n) = _
  rw [pageAt, ← toNat_page_clamp, ← p.pageSize_clamp n]
  generalize p.clamp n = q at hrange ⊢
  have hstop := q.toNat_stop_le n
  rw [between, if_pos ⟨hrange.start_le_stop hn, by omega⟩, stop, toNat_min, hrange.toNat_start_add hn,
    hrange.toNat_start, hlength, List.take_eq_take_iff, List.length_drop]
  omega

/-- A page that the list has is shown after going to it. -/
theorem slice_setPage {α : Type} (p : Paginator) {xs : List α} (h : xs.length < 2 ^ 63)
    {page : UInt64} (hpage : 1 ≤ page) (hle : page ≤ p.pageCount (UInt64.ofNat xs.length)) :
    ((p.setPage page (UInt64.ofNat xs.length)).slice xs).2 = p.pageAt page.toNat xs := by
  rw [slice_eq _ h, pageCount_eq (p.pageSize_setPage ..), page_setPage hpage hle, pageAt,
    p.pageSize_setPage, Nat.min_eq_left (UInt64.le_iff_toNat_le.1 hle)]
  rfl

/-- What is shown of a list is shown again when it is looked at again. -/
theorem slice_slice {α : Type} (p : Paginator) (xs : List α) :
    (p.slice xs).1.slice xs = p.slice xs := by
  simp only [slice, clamp_clamp]

/-- Only records of the list are shown. -/
theorem slice_subset {α : Type} (p : Paginator) (xs : List α) : (p.slice xs).2 ⊆ xs := by
  intro x hx
  simp only [slice, between] at hx
  split at hx
  · exact List.mem_of_mem_drop (List.mem_of_mem_take hx)
  · contradiction

end Paginator

end SubtitleCoverage
