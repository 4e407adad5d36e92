/-!
# Pages of a list

A list is shown a page at a time. Pages are counted from 1, and a list without records still has
page 1. Numbers are those of the machine, so that a page size may be as large as it allows.

## Main definitions

* `Paginator` — a page size and a current page, with `setPage`, `clamp` and `slice`.
* `PageInfo`, `Paginator.info` — where the current page stands in a list.
-/

namespace SubtitleCoverage

/-- Where the current page stands in a list. -/
structure PageInfo where
  page : UInt64
  pageCount : UInt64
  pageSize : UInt64
  /-- The number of records in the list. -/
  total : UInt64
deriving DecidableEq, Repr

/-- A page size and a current page, neither of which is 0. -/
structure Paginator where
  pageSize : UInt64
  page : UInt64
  pageSize_pos : 1 ≤ pageSize
  page_pos : 1 ≤ page
deriving DecidableEq

namespace Paginator

theorem one_le_max (n : UInt64) : 1 ≤ max n 1 := by
  rw [UInt64.le_iff_toNat_le]
  simp only [max]
  split
  · exact Nat.le_refl _
  next h =>
    rw [UInt64.le_iff_toNat_le] at h
    omega

/-- The first page, with a page size of at least 1. -/
def ofSize (pageSize : UInt64) : Paginator :=
  ⟨max pageSize 1, 1, one_le_max pageSize, UInt64.le_refl 1⟩

/-- The number of pages of a list with `length` records. -/
def pageCount (p : Paginator) (length : UInt64) : UInt64 :=
  let whole := length / p.pageSize
  max (if length % p.pageSize = 0 then whole else whole + 1) 1

theorem one_le_pageCount (p : Paginator) (length : UInt64) : 1 ≤ p.pageCount length :=
  one_le_max _

/-- Goes to a page, or to the one nearest to it that the list has. -/
def setPage (p : Paginator) (page length : UInt64) : Paginator :=
  if h : 1 ≤ page ∧ page ≤ p.pageCount length then { p with page, page_pos := h.1 }
  else if page < 1 then { p with page := 1, page_pos := UInt64.le_refl 1 }
  else { p with page := p.pageCount length, page_pos := p.one_le_pageCount length }

/-- Goes back to the last page if the list has no such page any more. -/
def clamp (p : Paginator) (length : UInt64) : Paginator :=
  if p.pageCount length < p.page then
    { p with page := p.pageCount length, page_pos := p.one_le_pageCount length }
  else p

/-- The records from `first` up to and without `last`; none if the list does not reach so far. -/
def between {α : Type} (xs : List α) (first last : UInt64) : List α :=
  if first ≤ last ∧ last.toNat ≤ xs.length then
    (xs.drop first.toNat).take (last.toNat - first.toNat)
  else []

/-- The records of the current page, after going back to the last page if need be. -/
def slice {α : Type} (p : Paginator) (xs : List α) : Paginator × List α :=
  let length := UInt64.ofNat xs.length
  let p := p.clamp length
  -- No page begins beyond the end of the list, so nothing overflows if its length is below 2 ^ 63.
  let first := (p.page - 1) * p.pageSize
  let last := min (first + p.pageSize) length
  (p, between xs first last)

/-- Where the current page stands in a list with `length` records. -/
def info (p : Paginator) (length : UInt64) : PageInfo :=
  ⟨p.page, p.pageCount length, p.pageSize, length⟩

end Paginator

end SubtitleCoverage
