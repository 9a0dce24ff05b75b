import RequestFilter.Proofs.Number.Digits
import RequestFilter.Proofs.Number.Nearest

/-!
Rounding to the nearest number of 64 bits.

The nearest rank depends on a quotient alone, not on the numbers that it is given by. A decimal is
therefore read as the same number however many zeros stand at the end of its significand. What is
rounded to infinity begins half a step above the largest finite magnitude.
-/

set_option autoImplicit false

namespace RequestFilter

namespace Double

/-! ### The nearest rank -/

private theorem nearestRank_mul (num den : Nat) {k : Nat} (positive : 0 < k) :
    nearestRank (k * num) (k * den) = nearestRank num den := by
  have quotient : k * num / (k * den) = num / den := Nat.mul_div_mul_left _ _ positive
  simp only [nearestRank, quotient, Nat.mul_assoc]
  generalize den * Nat.pow 2 ((num / den).log2 - 52) = step
  rw [Nat.mul_div_mul_left _ _ positive, Nat.mul_mod_mul_left, Nat.mul_left_comm 2 k]
  simp only [Nat.mul_lt_mul_left positive]

theorem nearestRank_congr {a b c d : Nat} (hb : 0 < b) (hd : 0 < d) (same : a * d = c * b) :
    nearestRank a b = nearestRank c d := by
  calc nearestRank a b
      = nearestRank (d * a) (d * b) := (nearestRank_mul a b hd).symm
    _ = nearestRank (b * c) (b * d) := by
        rw [Nat.mul_comm d a, same, Nat.mul_comm c b, Nat.mul_comm d b]
    _ = nearestRank c d := nearestRank_mul c d hb

/-! ### Numbers of 64 bits -/

theorem clamp_of_le (negative : Bool) {rank : Nat} (h : rank ≤ infinityRank) :
    clamp negative rank = .ranked negative rank h := by
  simp only [clamp, Nat.min_eq_left h]

theorem isFinite_clamp_iff (negative : Bool) (rank : Nat) :
    (clamp negative rank).isFinite = true ↔ rank < infinityRank := by
  simp only [clamp, isFinite, decide_eq_true_eq]
  omega

theorem unitsPerOne_eq_two_pow : unitsPerOne = 2 ^ unitExponent := by
  unfold unitsPerOne
  generalize unitExponent = e
  exact Nat.pow_eq

theorem unitsPerOne_pos : 0 < unitsPerOne := by
  rw [unitsPerOne_eq_two_pow]
  exact Nat.two_pow_pos _

/-! ### Infinity -/

/-- Where the numbers that are rounded to infinity begin: half a step above the largest finite
magnitude. -/
def overflow : Nat := 2 ^ 1024 - 2 ^ 970

/-- Where the numbers that are rounded to a power of two begin: half a step below the power. -/
theorem nearestRank_lt_power_iff (num : Nat) {den : Nat} (positive : 0 < den) (shift : Nat) :
    nearestRank num den < shift * binade + 2 * binade ↔
      2 * num < den * ((4 * binade - 1) * 2 ^ shift) := by
  have filled : 0 < binade := by decide
  have last : shift * binade + 2 * binade = shift * binade + (2 * binade - 1) + 1 := by omega
  have before : units (shift * binade + (2 * binade - 1)) = (2 * binade - 1) * 2 ^ shift :=
    units_count (Or.inr (by decide)) (by decide)
  have power : units (shift * binade + (2 * binade - 1) + 1) = 2 * binade * 2 ^ shift := by
    rw [← last]
    exact units_count (Or.inr (by decide)) (by decide)
  have sum : (2 * binade - 1) * 2 ^ shift + 2 * binade * 2 ^ shift =
      (4 * binade - 1) * 2 ^ shift := by
    rw [← Nat.add_mul]
    congr 1
  have odd : (shift * binade + (2 * binade - 1)) % 2 = 1 := by
    have half : binade = 2 * (binade / 2) := by decide
    have even : shift * binade = 2 * (shift * (binade / 2)) := by
      rw [Nat.mul_left_comm, ← half]
    omega
  rw [last, Nat.lt_succ_iff, nearestRank_le_iff num positive, before, power, sum, odd]
  omega

theorem two_mul_overflow : 2 * (overflow * unitsPerOne) = (4 * binade - 1) * 2 ^ 2045 := by
  decide +kernel

theorem nearestRank_lt_infinityRank_iff (num : Nat) {den : Nat} (positive : 0 < den) :
    nearestRank num den < infinityRank ↔ num < den * (overflow * unitsPerOne) := by
  have top : infinityRank = 2045 * binade + 2 * binade := by decide
  rw [top, nearestRank_lt_power_iff num positive, ← two_mul_overflow, Nat.mul_left_comm]
  exact Nat.mul_lt_mul_left (by decide)

theorem isFinite_ofRatio_iff (negative : Bool) (num : Nat) {den : Nat} (positive : 0 < den) :
    (ofRatio negative num den).isFinite = true ↔ num < den * overflow := by
  rw [ofRatio, ofUnits, isFinite_clamp_iff, nearestRank_lt_infinityRank_iff _ positive,
    ← Nat.mul_assoc]
  exact Nat.mul_lt_mul_right unitsPerOne_pos

theorem isFinite_ofRatio_whole (negative : Bool) {n : Nat} (h : n < 2 ^ 64) :
    (ofRatio negative n 1).isFinite = true := by
  have bound : 2 ^ 64 ≤ overflow := by decide +kernel
  rw [isFinite_ofRatio_iff negative n Nat.one_pos, Nat.one_mul]
  exact Nat.lt_of_lt_of_le h bound

end Double

/-! ### Decimals -/

namespace Decimal

open Double (clamp ofRatio ofUnits infinityRank unitsPerOne nearestRank)

private theorem exists_toDouble_eq_clamp (d : Decimal) :
    ∃ rank, ∀ negative, d.toDouble negative = clamp negative rank := by
  unfold toDouble
  split
  · exact ⟨0, fun _ => rfl⟩
  · split
    · exact ⟨infinityRank, fun _ => rfl⟩
    · exact ⟨_, fun _ => rfl⟩

theorem toDouble_eq_clamp {d : Decimal} {rank : Nat}
    (h : d.toDouble false = clamp false rank) (negative : Bool) :
    d.toDouble negative = clamp negative rank := by
  obtain ⟨own, read⟩ := d.exists_toDouble_eq_clamp
  rw [read] at h ⊢
  simpa [clamp] using h

def padded (k : Nat) (d : Decimal) : Decimal := ⟨d.significand * 10 ^ k, d.exponent - k⟩

private theorem order_padded (k : Nat) {d : Decimal} (positive : 0 < d.significand) :
    (d.padded k).order = d.order := by
  simp only [order, padded, decimalWidth_mul_pow positive]
  omega

theorem toDouble_padded (k : Nat) (d : Decimal) (negative : Bool) :
    (d.padded k).toDouble negative = d.toDouble negative := by
  by_cases zero : d.significand = 0
  · simp [toDouble, padded, zero]
  have positive : 0 < d.significand := Nat.pos_of_ne_zero zero
  have tens (n : Nat) : 0 < 10 ^ n := Nat.pow_pos (by decide)
  have nonzero : (d.padded k).significand ≠ 0 := Nat.ne_of_gt (Nat.mul_pos positive (tens k))
  have powers : 10 ^ k * 10 ^ (d.exponent - k).toNat * 10 ^ (-d.exponent).toNat =
      10 ^ d.exponent.toNat * 10 ^ (-(d.exponent - k)).toNat := by
    rw [← Nat.pow_add, ← Nat.pow_add, ← Nat.pow_add]
    congr 1
    omega
  have ratio : ofRatio negative ((d.padded k).significand * 10 ^ (d.padded k).exponent.toNat)
        (10 ^ (-(d.padded k).exponent).toNat) =
      ofRatio negative (d.significand * 10 ^ d.exponent.toNat) (10 ^ (-d.exponent).toNat) := by
    rw [ofRatio, ofRatio, ofUnits, ofUnits, Double.nearestRank_congr (tens _) (tens _)]
    simp only [padded]
    calc d.significand * 10 ^ k * 10 ^ (d.exponent - k).toNat * unitsPerOne *
          10 ^ (-d.exponent).toNat
        = d.significand * unitsPerOne *
            (10 ^ k * 10 ^ (d.exponent - k).toNat * 10 ^ (-d.exponent).toNat) := by
          simp only [Nat.mul_assoc, Nat.mul_left_comm]
      _ = d.significand * unitsPerOne *
            (10 ^ d.exponent.toNat * 10 ^ (-(d.exponent - k)).toNat) := by rw [powers]
      _ = d.significand * 10 ^ d.exponent.toNat * unitsPerOne *
            10 ^ (-(d.exponent - k)).toNat := by
          simp only [Nat.mul_assoc, Nat.mul_left_comm]
  simp only [toDouble, order_padded k positive, nonzero, zero, Nat.pow_eq, ratio]

end Decimal
end RequestFilter
