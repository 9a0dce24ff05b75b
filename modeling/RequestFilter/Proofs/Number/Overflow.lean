import Mathlib.Data.Rat.Cast.Order
import Mathlib.Tactic.NormNum
import Mathlib.Tactic.Positivity
import RequestFilter.Proofs.Number.Rounding

/-!
Decimals that are too large for a number of 64 bits.

A decimal lies between the two powers of ten that its order gives, so those that are cut off by
their order alone are read as the others are: as a finite number exactly if the rational number that
the decimal is lies below the bound for infinity.
-/

set_option autoImplicit false

namespace RequestFilter.Decimal

open Double (overflow)

/-- The rational number that a decimal is. -/
def value (d : Decimal) : ℚ := d.significand * (10 : ℚ) ^ d.exponent

theorem value_natCast (n : Nat) : value ⟨n, 0⟩ = n := by
  rw [value, zpow_zero, mul_one]

theorem value_natCast_lt_iff {n bound : Nat} : value ⟨n, 0⟩ < bound ↔ n < bound := by
  rw [value_natCast, Nat.cast_lt]

/-! ### The order of a decimal -/

private theorem value_lt_order (d : Decimal) : d.value < (10 : ℚ) ^ d.order := by
  have digits : d.significand < 10 ^ decimalWidth d.significand :=
    (decimalWidth_le_iff (decimalWidth_pos d.significand)).mp (Nat.le_refl _)
  have below : (d.significand : ℚ) < 10 ^ decimalWidth d.significand := by exact_mod_cast digits
  have unit : (0 : ℚ) < 10 ^ d.exponent := zpow_pos (by norm_num) _
  calc d.value
      < 10 ^ decimalWidth d.significand * (10 : ℚ) ^ d.exponent := mul_lt_mul_of_pos_right below unit
    _ = (10 : ℚ) ^ d.order := by rw [order, zpow_add₀ (by norm_num), zpow_natCast]

private theorem order_le_value {d : Decimal} (nonzero : d.significand ≠ 0) :
    (10 : ℚ) ^ (d.order - 1) ≤ d.value := by
  have digits := pow_decimalWidth_le (Nat.pos_of_ne_zero nonzero)
  have above : (10 : ℚ) ^ (decimalWidth d.significand - 1) ≤ d.significand := by
    exact_mod_cast digits
  have unit : (0 : ℚ) < 10 ^ d.exponent := zpow_pos (by norm_num) _
  have width := decimalWidth_pos d.significand
  have split : d.order - 1 = ((decimalWidth d.significand - 1 : Nat) : Int) + d.exponent := by
    rw [order]
    omega
  calc (10 : ℚ) ^ (d.order - 1)
      = 10 ^ (decimalWidth d.significand - 1) * (10 : ℚ) ^ d.exponent := by
        rw [split, zpow_add₀ (by norm_num), zpow_natCast]
    _ ≤ d.value := mul_le_mul_of_nonneg_right above unit.le

/-! ### Finite numbers -/

theorem value_eq_div (d : Decimal) :
    d.value = (d.significand * 10 ^ d.exponent.toNat : Nat) / (10 ^ (-d.exponent).toNat : Nat) := by
  have power : (10 : ℚ) ^ d.exponent = 10 ^ d.exponent.toNat / 10 ^ (-d.exponent).toNat := by
    rw [← zpow_natCast, ← zpow_natCast, ← zpow_sub₀ (by norm_num)]
    congr 1
    omega
  rw [value, power, ← mul_div_assoc]
  norm_cast

theorem value_lt_iff (d : Decimal) (bound : Nat) :
    d.value < bound ↔
      d.significand * 10 ^ d.exponent.toNat < 10 ^ (-d.exponent).toNat * bound := by
  have positive : (0 : ℚ) < (10 ^ (-d.exponent).toNat : Nat) := by positivity
  rw [value_eq_div, div_lt_iff₀ positive, mul_comm (bound : ℚ)]
  exact_mod_cast Iff.rfl

theorem value_eq_iff (d : Decimal) (n : Nat) :
    d.value = n ↔ d.significand * 10 ^ d.exponent.toNat = n * 10 ^ (-d.exponent).toNat := by
  have positive : (0 : ℚ) < (10 ^ (-d.exponent).toNat : Nat) := by positivity
  rw [value_eq_div, div_eq_iff positive.ne']
  exact_mod_cast Iff.rfl

theorem value_lt_one {d : Decimal} (small : d.significand = 0 ∨ d.order < -330) : d.value < 1 := by
  rcases small with zero | low
  · rw [value, zero, Nat.cast_zero, zero_mul]
    exact one_pos
  · exact d.value_lt_order.trans_le (zpow_le_one_of_nonpos₀ (by norm_num) (by omega))

theorem overflow_le_value {d : Decimal} (nonzero : d.significand ≠ 0) (high : 310 < d.order) :
    (overflow : ℚ) ≤ d.value := by
  have large : (overflow : ℚ) ≤ 10 ^ 309 := by
    have whole : overflow ≤ 10 ^ 309 := by decide +kernel
    exact_mod_cast whole
  have power : (10 : ℚ) ^ (309 : Int) ≤ 10 ^ (d.order - 1) :=
    zpow_le_zpow_right₀ (by norm_num) (by omega)
  exact large.trans (power.trans (order_le_value nonzero))

/-- A decimal is read as a finite number exactly if it lies below the bound for infinity. -/
theorem isFinite_toDouble_iff (d : Decimal) (negative : Bool) :
    (d.toDouble negative).isFinite = true ↔ d.value < overflow := by
  unfold toDouble
  split
  · rename_i small
    have one : (1 : ℚ) ≤ overflow := by
      have whole : 1 ≤ overflow := by decide +kernel
      exact_mod_cast whole
    exact iff_of_true ((Double.isFinite_clamp_iff negative 0).mpr (by decide))
      ((value_lt_one small).trans_le one)
  · split
    · rename_i kept high
      refine iff_of_false ?_ (not_lt_of_ge (overflow_le_value (not_or.mp kept).1 high))
      rw [Double.isFinite_clamp_iff]
      exact Nat.lt_irrefl _
    · rw [value_lt_iff]
      simp only [Nat.pow_eq]
      exact Double.isFinite_ofRatio_iff negative _ (Nat.pow_pos (by decide))

end RequestFilter.Decimal
