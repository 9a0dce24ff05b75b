import RequestFilter.Proofs.Number.Overflow
import RequestFilter.Proofs.Number.Whole

/-!
Rounded numbers that are multiplied by a power of two.

Multiplying moves a magnitude to another part of the scale and loses nothing, unless the product
passes the largest finite magnitude. That is the case exactly if the number as it was before
rounding gives a product that is rounded to infinity.
-/

set_option autoImplicit false

namespace RequestFilter

namespace Double

variable {k : Nat}

theorem mul_ne_nan {x y : Double} (left : x.isFinite = true) (right : y.isFinite = true) :
    x * y ≠ .nan := by
  cases x with
  | nan => cases left
  | ranked _ a _ =>
    cases y with
    | nan => cases right
    | ranked _ b _ =>
      have finite : ¬(a = infinityRank ∨ b = infinityRank) :=
        not_or.mpr ⟨Nat.ne_of_lt (of_decide_eq_true left), Nat.ne_of_lt (of_decide_eq_true right)⟩
      change mul _ _ ≠ _
      rw [mul, if_neg finite, ofUnits, clamp]
      intro h
      cases h

private theorem isFinite_clamp_mul_iff (small : k ≤ 971) (negative : Bool) {rank : Nat}
    (finite : rank < infinityRank) :
    (clamp negative rank * ofNat (2 ^ k)).isFinite = true ↔
      rank < (2045 - k) * binade + 2 * binade := by
  have short : IsShort (2 ^ k) := ⟨1, k, (Nat.one_mul _).symm, by decide, small⟩
  obtain ⟨factor, factorFinite, factorUnits, factorKept⟩ := short.exists_rank
  have product : (clamp negative rank * ofNat (2 ^ k)).isFinite = true ↔
      units rank * 2 ^ k < overflow * unitsPerOne := by
    have neither : ¬(rank = infinityRank ∨ factor = infinityRank) := by omega
    rw [clamp_of_le negative (Nat.le_of_lt finite), factorKept]
    change (mul _ _).isFinite = true ↔ _
    rw [mul, if_neg neither, ofUnits, isFinite_clamp_iff,
      nearestRank_lt_infinityRank_iff _ unitsPerOne_pos, factorUnits, ← Nat.mul_assoc,
      Nat.mul_comm unitsPerOne]
    exact Nat.mul_lt_mul_right unitsPerOne_pos
  have room : k ≤ 2045 := Nat.le_trans small (by decide)
  have scaled := pow_sub_mul_pow 2 room
  have positive : 0 < 2 ^ 2045 := pow_pos two_pos 2045
  have middle := two_mul_overflow
  have filled : 0 < binade := by decide
  rw [product]
  generalize 2 ^ 2045 = top at scaled positive middle
  have four : (4 * binade - 1) * top + top = 4 * (binade * top) := by
    rw [← Nat.succ_mul, Nat.succ_eq_add_one, Nat.sub_add_cancel (by omega), Nat.mul_assoc]
  have two : (2 * binade - 1) * top + top = 2 * (binade * top) := by
    rw [← Nat.succ_mul, Nat.succ_eq_add_one, Nat.sub_add_cancel (by omega), Nat.mul_assoc]
  constructor
  · intro below
    by_contra outside
    have first : units ((2045 - k) * binade + 2 * binade) = 2 * binade * 2 ^ (2045 - k) :=
      units_count (Or.inr (by decide)) (by decide)
    have reached : 2 * (binade * top) ≤ units rank * 2 ^ k := by
      calc 2 * (binade * top)
          = units ((2045 - k) * binade + 2 * binade) * 2 ^ k := by
            rw [first, Nat.mul_assoc, scaled, Nat.mul_assoc]
        _ ≤ units rank * 2 ^ k :=
            Nat.mul_le_mul_right _ (units_strictMono.monotone (Nat.le_of_not_lt outside))
    omega
  · intro inside
    have last : units ((2045 - k) * binade + (2 * binade - 1)) =
        (2 * binade - 1) * 2 ^ (2045 - k) :=
      units_count (Or.inr (by decide)) (by decide)
    have within : units rank * 2 ^ k ≤ (2 * binade - 1) * top := by
      calc units rank * 2 ^ k
          ≤ units ((2045 - k) * binade + (2 * binade - 1)) * 2 ^ k :=
            Nat.mul_le_mul_right _ (units_strictMono.monotone (by omega))
        _ = (2 * binade - 1) * top := by rw [last, Nat.mul_assoc, scaled]
    omega

private theorem isFinite_ofRatio_mul_iff (small : k ≤ 971) (negative : Bool) {num den : Nat}
    (positive : 0 < den) (finite : num < den * overflow) :
    (ofRatio negative num den * ofNat (2 ^ k)).isFinite = true ↔ num * 2 ^ k < den * overflow := by
  have below : nearestRank (num * unitsPerOne) den < infinityRank := by
    rw [← isFinite_clamp_iff negative]
    exact (isFinite_ofRatio_iff negative num positive).mpr finite
  have room : k ≤ 2045 := Nat.le_trans small (by decide)
  have scaled := pow_sub_mul_pow 2 room
  rw [ofRatio, ofUnits, isFinite_clamp_mul_iff small negative below,
    nearestRank_lt_power_iff _ positive]
  have left : 2 * (num * unitsPerOne) * 2 ^ k = 2 * unitsPerOne * (num * 2 ^ k) := by
    rw [Nat.mul_assoc, Nat.mul_right_comm num, Nat.mul_comm (num * 2 ^ k), Nat.mul_assoc]
  have right : den * ((4 * binade - 1) * 2 ^ (2045 - k)) * 2 ^ k =
      2 * unitsPerOne * (den * overflow) := by
    rw [Nat.mul_assoc, Nat.mul_assoc (4 * binade - 1), scaled, ← two_mul_overflow,
      Nat.mul_comm overflow, ← Nat.mul_assoc 2, Nat.mul_left_comm]
  rw [← Nat.mul_lt_mul_right (Nat.two_pow_pos k), left, right]
  exact Nat.mul_lt_mul_left (Nat.mul_pos (by decide) unitsPerOne_pos)

end Double

/-! ### Decimals -/

namespace Decimal

open Double (overflow)

/-- A rounded decimal times a power of two is finite exactly if the decimal times that power is not
rounded to infinity. -/
theorem isFinite_toDouble_mul_iff {k : Nat} (small : k ≤ 971) (negative : Bool) {d : Decimal}
    (finite : d.value < overflow) :
    (d.toDouble negative * .ofNat (2 ^ k)).isFinite = true ↔ d.value * 2 ^ k < overflow := by
  unfold toDouble
  split
  · rename_i cut
    have power : (2 : ℚ) ^ k ≤ overflow := by
      have bound : 2 ^ 971 ≤ overflow := by decide +kernel
      have whole : 2 ^ k ≤ overflow := (pow_le_pow_right₀ one_le_two small).trans bound
      exact_mod_cast whole
    have below : d.value * 2 ^ k < 1 * 2 ^ k :=
      mul_lt_mul_of_pos_right (value_lt_one cut) (by positivity)
    rw [one_mul] at below
    have first : 0 < (2045 - k) * Double.binade + 2 * Double.binade :=
      Nat.add_pos_right _ (by decide)
    exact iff_of_true ((Double.isFinite_clamp_mul_iff small negative (by decide)).mpr first)
      (below.trans_le power)
  · split
    · rename_i kept high
      exact absurd finite (not_lt_of_ge (overflow_le_value (not_or.mp kept).1 high))
    · have positive : 0 < 10 ^ (-d.exponent).toNat := Nat.pow_pos (by decide)
      have ratio : (0 : ℚ) < (10 ^ (-d.exponent).toNat : Nat) := by exact_mod_cast positive
      rw [value_lt_iff] at finite
      simp only [Nat.pow_eq]
      rw [Double.isFinite_ofRatio_mul_iff small negative positive finite, value_eq_div,
        div_mul_eq_mul_div, div_lt_iff₀ ratio, mul_comm (overflow : ℚ)]
      exact_mod_cast Iff.rfl

end Decimal
end RequestFilter
