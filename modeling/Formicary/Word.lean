/-!
# Products of words

The product of two words of 64 bits takes up to 128 bits. The multiplication of words keeps its
lower word; `Word.highProduct` computes the upper one without leaving words.

## Main results

* `Word.toNat_highProduct`: the upper word is the quotient of the product by the number of words.
-/

namespace Formicary.Word

/-- The lower half of a word. -/
def low (a : UInt64) : UInt64 := a &&& 0xffffffff

/-- The upper half of a word. -/
def high (a : UInt64) : UInt64 := a >>> 32

/-- The upper word of the product of two words, by long multiplication of their halves. No sum on
the way exceeds a word. -/
def highProduct (a b : UInt64) : UInt64 :=
  let middle := high a * low b + high (low a * low b)
  let cross := low a * high b + low middle
  high a * high b + high middle + high cross

/-- The upper half is a quotient. -/
theorem toNat_high (a : UInt64) : (high a).toNat = a.toNat / 0x100000000 := by
  rw [high, UInt64.toNat_shiftRight]
  exact Nat.shiftRight_eq_div_pow _ 32

/-- The lower half is a remainder. -/
theorem toNat_low (a : UInt64) : (low a).toNat = a.toNat % 0x100000000 := by
  rw [low, UInt64.toNat_and]
  exact Nat.and_two_pow_sub_one_eq_mod _ 32

/-- The product of two halves leaves room in a word for one half more, and another. -/
theorem mul_le_of_halves {x y : Nat} (hx : x < 0x100000000) (hy : y < 0x100000000) :
    x * y ≤ 0xfffffffe00000001 :=
  Nat.mul_le_mul (Nat.le_of_lt_succ hx) (Nat.le_of_lt_succ hy)

/-- Long multiplication of two numbers that are each given by two halves. -/
theorem mul_eq_halves (x₁ x₀ y₁ y₀ : Nat) :
    (0x100000000 * x₁ + x₀) * (0x100000000 * y₁ + y₀) =
      0x10000000000000000 * (x₁ * y₁) + 0x100000000 * (x₁ * y₀ + x₀ * y₁) + x₀ * y₀ := by
  rw [Nat.add_mul, Nat.mul_add, Nat.mul_add, Nat.mul_mul_mul_comm, Nat.mul_assoc 0x100000000 x₁ y₀,
    Nat.mul_left_comm x₀ 0x100000000 y₁]
  omega

/-- The upper word of a product is the quotient of the product by the number of words. -/
theorem toNat_highProduct (a b : UInt64) :
    (highProduct a b).toNat = a.toNat * b.toNat / 0x10000000000000000 := by
  have ha := a.toNat_lt
  have hb := b.toNat_lt
  rw [← Nat.div_add_mod a.toNat 0x100000000, ← Nat.div_add_mod b.toNat 0x100000000, mul_eq_halves]
  simp only [highProduct, UInt64.toNat_add, UInt64.toNat_mul, toNat_high, toNat_low]
  have ha₁ : a.toNat / 0x100000000 < 0x100000000 := by omega
  have hb₁ : b.toNat / 0x100000000 < 0x100000000 := by omega
  have ha₀ : a.toNat % 0x100000000 < 0x100000000 := by omega
  have hb₀ : b.toNat % 0x100000000 < 0x100000000 := by omega
  -- The four partial products are all that matters from here on.
  have h₁₁ := mul_le_of_halves ha₁ hb₁
  have h₁₀ := mul_le_of_halves ha₁ hb₀
  have h₀₁ := mul_le_of_halves ha₀ hb₁
  have h₀₀ := mul_le_of_halves ha₀ hb₀
  generalize (a.toNat / 0x100000000) * (b.toNat / 0x100000000) = p₁₁ at *
  generalize (a.toNat / 0x100000000) * (b.toNat % 0x100000000) = p₁₀ at *
  generalize (a.toNat % 0x100000000) * (b.toNat / 0x100000000) = p₀₁ at *
  generalize (a.toNat % 0x100000000) * (b.toNat % 0x100000000) = p₀₀ at *
  clear ha hb ha₁ hb₁ ha₀ hb₀
  omega

end Formicary.Word
