import Mathlib.Data.List.Nodup
import Mathlib.Logic.Relation
import SubtitleCoverage.Proofs.Listing.Pages
import SubtitleCoverage.Proofs.Positions

/-!
# Pages tile a list

The place of a page is a product and a sum of numbers of the machine, which come from a configuration
and from whoever turns the pages.  A page size of 0 counts as 1, and the largest one is as good as any
other.  What keeps the numbers small is that the paginator goes back to a page of the list before it
looks for the place of it.

## Main definitions

* `Paginator.Move` — what can be done to a paginator.
* `Paginator.pages p xs` — what is shown of a list on its pages, from the first to the last.
* `Paginator.SlicesExactly p xs` — a paginator finds its page of a list without overflow.
* `Paginator.Tiles p xs` — the pages of a list hold each of its places once.

## Main results

* `slicesExactly` — every paginator finds its page.
* `tiles` — the pages of every list tile it.
* `slices_tile_list` — **both hold whatever has been done to a paginator.**
-/

namespace SubtitleCoverage

namespace Paginator

/-- One thing that can be done to a paginator: going to a page, going back to the last page, and looking
at a list.  The lengths may be those of other lists. -/
inductive Move (p : Paginator) : Paginator → Prop where
  | setPage (page n : UInt64) : Move p (p.setPage page n)
  | clamp (n : UInt64) : Move p (p.clamp n)
  | slice {α : Type} (xs : List α) : Move p (p.slice xs).1

/-- The page size does not change. -/
theorem pageSize_of_moves {p p' : Paginator} (h : Relation.ReflTransGen Move p p') :
    p'.pageSize = p.pageSize := by
  induction h with
  | refl => rfl
  | tail _ hmove ih =>
    rw [← ih]
    cases hmove with
    | setPage page n => exact pageSize_setPage ..
    | clamp n => exact pageSize_clamp ..
    | slice xs => exact pageSize_clamp ..

section

variable {α : Type} (p : Paginator) {xs : List α}

/-! ### One page -/

/-- A paginator finds its page of a list without overflow. -/
structure SlicesExactly (p : Paginator) (xs : List α) : Prop where
  /-- The list has the page that the paginator comes to. -/
  inRange : (p.slice xs).1.page ≤ (p.slice xs).1.pageCount (UInt64.ofNat xs.length)
  slice_eq : (p.slice xs).2 =
    between xs (p.slice xs).1.start ((p.slice xs).1.stop (UInt64.ofNat xs.length))
  start_eq : (p.slice xs).1.start.toNat =
    ((p.slice xs).1.page.toNat - 1) * (p.slice xs).1.pageSize.toNat
  start_add_eq : ((p.slice xs).1.start + (p.slice xs).1.pageSize).toNat =
    (p.slice xs).1.start.toNat + (p.slice xs).1.pageSize.toNat
  /-- The page is a part of the list. -/
  within : (p.slice xs).1.start ≤ (p.slice xs).1.stop (UInt64.ofNat xs.length) ∧
    ((p.slice xs).1.stop (UInt64.ofNat xs.length)).toNat ≤ xs.length
  shows : xs ≠ [] → (p.slice xs).2 ≠ []

/-- A page that is there has a record on it, if the list has any. -/
theorem pageAt_ne_nil {p : Paginator} (h : xs.length < 2 ^ 63)
    (hrange : p.InRange (UInt64.ofNat xs.length)) (hne : xs ≠ []) : p.pageAt p.page.toNat xs ≠ [] := by
  have hsize : 1 ≤ p.pageSize.toNat := UInt64.le_iff_toNat_le.1 p.pageSize_pos
  have hlength := List.length_pos_iff.2 hne
  have hfirst := hrange.first_or
  rw [toNat_ofNat_length h] at hfirst
  rw [← List.length_pos_iff, pageAt, List.length_take, List.length_drop]
  rcases hfirst with hzero | hlt
  · rw [hzero, Nat.zero_mul]
    omega
  · omega

/-- **Every paginator finds its page** of a list that is shorter than `2 ^ 63`. -/
theorem slicesExactly (h : xs.length < 2 ^ 63) : p.SlicesExactly xs := by
  have hlength := toNat_ofNat_length h
  have hn : (UInt64.ofNat xs.length).toNat < 2 ^ 63 := by rwa [hlength]
  have hrange : (p.slice xs).1.InRange (UInt64.ofNat xs.length) := p.inRange_clamp _
  have hstop := (p.slice xs).1.toNat_stop_le (UInt64.ofNat xs.length)
  rw [hlength] at hstop
  have hshown : (p.slice xs).2 = (p.slice xs).1.pageAt (p.slice xs).1.page.toNat xs := by
    rw [p.slice_eq h, toNat_page_clamp, pageAt, pageAt, pageSize_clamp]
  refine ⟨hrange, rfl, hrange.toNat_start, hrange.toNat_start_add hn,
    ⟨hrange.start_le_stop hn, hstop⟩, fun hne => ?_⟩
  rw [hshown]
  exact pageAt_ne_nil h hrange hne

/-! ### All pages -/

/-- What is shown of a list on its pages, from the first to the last. -/
def pages (p : Paginator) (xs : List α) : List (List α) :=
  (List.range (p.pageCount (UInt64.ofNat xs.length)).toNat).map fun k =>
    ((p.setPage (UInt64.ofNat (k + 1)) (UInt64.ofNat xs.length)).slice xs).2

/-- The pages of a list hold each of its places once, in order. -/
structure Tiles (p : Paginator) (xs : List α) : Prop where
  flatten : (p.pages xs).flatten = xs
  full : ∀ page ∈ (p.pages xs).dropLast, page.length = p.pageSize.toNat
  /-- The pages show what stands at the places that they have, and no two have one in common. -/
  places : p.pages xs = (p.pages (List.range xs.length)).map (pick xs)
  disjoint : (p.pages (List.range xs.length)).Pairwise List.Disjoint

theorem pages_eq (h : xs.length < 2 ^ 63) :
    p.pages xs = (List.range (p.pageCount (UInt64.ofNat xs.length)).toNat).map fun k =>
      p.pageAt (k + 1) xs := by
  refine List.map_congr_left fun k hk => ?_
  have hcount := (p.pageCount (UInt64.ofNat xs.length)).toNat_lt
  have hlt := List.mem_range.1 hk
  have hnumber : (UInt64.ofNat (k + 1)).toNat = k + 1 := Nat.mod_eq_of_lt (by omega)
  rw [slice_setPage p h, hnumber]
  · rw [UInt64.le_iff_toNat_le, hnumber]
    exact Nat.succ_pos k
  · rw [UInt64.le_iff_toNat_le, hnumber]
    exact hlt

theorem flatten_pages (h : xs.length < 2 ^ 63) : (p.pages xs).flatten = xs := by
  rw [p.pages_eq h]
  exact p.flatMap_pageAt (Nat.lt_trans h (by decide))

/-- All pages but the last one are full. -/
theorem length_of_mem_dropLast_pages (h : xs.length < 2 ^ 63) {page : List α}
    (hpage : page ∈ (p.pages xs).dropLast) : page.length = p.pageSize.toNat := by
  rw [p.pages_eq h] at hpage
  obtain ⟨k, hk, rfl⟩ := List.mem_iff_getElem.1 hpage
  rw [List.length_dropLast, List.length_map, List.length_range] at hk
  rw [List.getElem_dropLast, List.getElem_map, List.getElem_range, pageAt, List.length_take,
    List.length_drop, Nat.add_sub_cancel]
  -- there is a further page, so this one ends before the list does
  have hmore := (p.lt_pageCount_iff (UInt64.ofNat xs.length) (Nat.succ_pos k)).1 (by omega)
  rw [toNat_ofNat_length h, Nat.succ_mul] at hmore
  omega

theorem map_pageAt {β : Type} (f : α → β) (k : Nat) (xs : List α) :
    (p.pageAt k xs).map f = p.pageAt k (xs.map f) := by
  rw [pageAt, List.map_take, List.map_drop]
  rfl

/-- A page shows what stands at its places. -/
theorem pageAt_eq_pick (k : Nat) (xs : List α) :
    p.pageAt k xs = pick xs (p.pageAt k (List.range xs.length)) := by
  have hplaces : p.pageAt k (List.range xs.length) = (p.pageAt k xs.zipIdx).map (·.2) := by
    rw [map_pageAt, List.zipIdx_map_snd, List.range_eq_range']
  have hrecords : p.pageAt k xs = (p.pageAt k xs.zipIdx).map (·.1) := by
    rw [map_pageAt, List.zipIdx_map_fst]
  rw [hplaces, pick_map_snd, hrecords]
  intro e he
  have hmem : e ∈ xs.zipIdx := List.mem_of_mem_drop (List.mem_of_mem_take he)
  exact List.mem_zipIdx_iff_getElem?.1 hmem

theorem tiles (h : xs.length < 2 ^ 63) : p.Tiles xs := by
  have hrange : (List.range xs.length).length < 2 ^ 63 := by rwa [List.length_range]
  refine ⟨p.flatten_pages h, fun page => p.length_of_mem_dropLast_pages h, ?_, ?_⟩
  · rw [p.pages_eq h, p.pages_eq hrange, List.map_map, List.length_range]
    exact List.map_congr_left fun k _ => p.pageAt_eq_pick (k + 1) xs
  · -- the pages of the places hold each place once together, so they hold none twice
    have hnodup : (p.pages (List.range xs.length)).flatten.Nodup := by
      rw [p.flatten_pages hrange]
      exact List.nodup_range
    exact (List.nodup_flatten.1 hnodup).2

end

/-- **Pages are found without overflow and tile every list, whatever has been done to a paginator.**
It begins with any page size, where 0 counts as 1, and keeps it.  On every list that is shorter than
`2 ^ 63` it comes to a page that the list has; the place of that page is the product and the sum that
it should be and lies within the list, and there is a record on it if there is any.  What is shown on
the pages from the first to the last is the list, cut at different places, and all pages but the last
one are full. -/
theorem slices_tile_list {size : UInt64} {p : Paginator}
    (h : Relation.ReflTransGen Move (ofSize size) p) :
    1 ≤ p.page ∧ 1 ≤ p.pageSize ∧ p.pageSize = max size 1 ∧
    ∀ {α : Type} (xs : List α), xs.length < 2 ^ 63 → p.SlicesExactly xs ∧ p.Tiles xs :=
  ⟨p.page_pos, p.pageSize_pos, pageSize_of_moves h, fun _ hlength =>
    ⟨p.slicesExactly hlength, p.tiles hlength⟩⟩

/-- A page size of 0, and the last page of the longest list: then a list of two records has two pages,
and the second one is shown. -/
theorem slices_tile_list_after_longest :
    let longest := UInt64.ofNat (2 ^ 64 - 1)
    let p := (ofSize 0).setPage longest longest
    Relation.ReflTransGen Move (ofSize 0) p ∧ p.page = longest ∧ [true, false].length < 2 ^ 63 ∧
      p.slice [true, false] = ((ofSize 0).setPage 2 2, [false]) ∧
      (p.pages [true, false]).flatten = [true, false] ∧ p.SlicesExactly [true, false] := by
  intro longest p
  have hmoves : Relation.ReflTransGen Move (ofSize 0) p := .single (.setPage longest longest)
  have hlength : [true, false].length < 2 ^ 63 := by decide
  obtain ⟨-, -, -, hlists⟩ := slices_tile_list hmoves
  obtain ⟨hexact, htiles⟩ := hlists [true, false] hlength
  exact ⟨hmoves, by decide, hlength, by decide, htiles.flatten, hexact⟩

end Paginator

end SubtitleCoverage
