import Formicary.Rng

/-!
# Draws are in range

A draw below a bound is below it, whatever the state of the generator (`Rng.below_lt`); so a draw
below one is zero (`Rng.below_eq_zero`).
-/

namespace Formicary

namespace Rng

/-- The upper half of the product of a half word with a bound is below the bound. -/
theorem interval_lt (bits n : UInt32) (hn : n ≠ 0) :
    ((bits.toUInt64 * n.toUInt64) >>> 32).toUInt32 < n := by
  have hbits : bits.toNat < 0x100000000 := bits.toNat_lt
  have hlt : n.toNat < 0x100000000 := n.toNat_lt
  have hpos : 0 < n.toNat := Nat.pos_of_ne_zero fun hzero => hn (UInt32.toNat_inj.1 hzero)
  have hle : bits.toNat * n.toNat ≤ 0xffffffff * n.toNat :=
    Nat.mul_le_mul_right _ (Nat.le_of_lt_succ hbits)
  -- The product of two half words is a word.
  have hproduct : (bits.toUInt64 * n.toUInt64).toNat = bits.toNat * n.toNat := by
    rw [UInt64.toNat_mul, UInt32.toNat_toUInt64, UInt32.toNat_toUInt64, Nat.mod_eq_of_lt]
    omega
  have hshift : (32 : UInt64).toNat % 64 = 32 := rfl
  rw [UInt32.lt_iff_toNat_lt, UInt64.toNat_toUInt32, UInt64.toNat_shiftRight, hproduct, hshift,
    Nat.shiftRight_eq_div_pow]
  omega

theorem belowFrom_lt (n : UInt32) (hn : n ≠ 0) (threshold : UInt64) (tries : Nat) (rng : Rng) :
    (belowFrom n.toUInt64 threshold tries rng).1 < n := by
  induction tries generalizing rng with
  | zero =>
    rw [belowFrom]
    simp only
    split
    · rw [UInt32.lt_iff_toNat_lt]
      exact Nat.pos_of_ne_zero fun hzero => hn (UInt32.toNat_inj.1 hzero)
    · exact interval_lt _ n hn
  | succ tries ih =>
    rw [belowFrom]
    simp only
    split
    · exact ih _
    · exact interval_lt _ n hn

/-- A draw below a bound is below it. -/
theorem below_lt (rng : Rng) {n : UInt32} (hn : n ≠ 0) : (rng.below n).1 < n := by
  rw [below, if_neg hn]
  exact belowFrom_lt n hn _ _ rng

/-- Below one there is only zero. -/
theorem below_eq_zero (rng : Rng) {bound : UInt32} (hbound : bound ≤ 1) :
    (rng.below bound).1 = 0 := by
  by_cases hzero : bound = 0
  · rw [below, if_pos hzero]
  · have hlt := Nat.lt_of_lt_of_le (UInt32.lt_iff_toNat_lt.1 (rng.below_lt hzero))
      (UInt32.le_iff_toNat_le.1 hbound)
    exact UInt32.toNat_inj.1 (Nat.lt_one_iff.1 hlt)

end Rng

end Formicary
