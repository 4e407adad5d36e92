/-!
# Numbers of the machine

Numbers of 64 bits are compared as the natural numbers that they stand for.

## Main results

* `toNat_max`, `toNat_min` — the greater and the smaller one of two numbers.
* `le_uint64_max_right`, `uint64_max_eq_right_iff` — when the greater one is the second one.
-/

namespace SubtitleCoverage

theorem toNat_max (a b : UInt64) : (max a b).toNat = max a.toNat b.toNat := by
  show (if a ≤ b then b else a).toNat = _
  split
  · next h =>
    rw [UInt64.le_iff_toNat_le] at h
    omega
  · next h =>
    rw [UInt64.le_iff_toNat_le] at h
    omega

theorem toNat_min (a b : UInt64) : (min a b).toNat = min a.toNat b.toNat := by
  show (if a ≤ b then a else b).toNat = _
  split
  · next h =>
    rw [UInt64.le_iff_toNat_le] at h
    omega
  · next h =>
    rw [UInt64.le_iff_toNat_le] at h
    omega

theorem le_uint64_max_right (a b : UInt64) : b ≤ max a b := by
  rw [UInt64.le_iff_toNat_le, toNat_max]
  omega

theorem uint64_max_eq_right_iff {a b : UInt64} : max a b = b ↔ a ≤ b := by
  rw [← UInt64.toNat_inj, toNat_max, UInt64.le_iff_toNat_le]
  omega

theorem uint64_max_zero (a : UInt64) : max a 0 = a := by
  rw [← UInt64.toNat_inj, toNat_max]
  exact Nat.max_zero _

theorem uint64_max_assoc (a b c : UInt64) : max (max a b) c = max a (max b c) := by
  simp only [← UInt64.toNat_inj, toNat_max]
  omega

end SubtitleCoverage
