import Mathlib.Data.Nat.Prime.Basic
import RequestFilter.Number.Decimal
import RequestFilter.Proofs.Number.Integral
import RequestFilter.Proofs.Number.Whole

/-!
Decimals that are scaled without loss.

Scaling rounds twice: the significand first, and then its product with a power of ten or its
quotient by one. If the significand and the power are numbers of 64 bits themselves, only the second
step rounds, and what comes out is the nearest number to the decimal.
-/

set_option autoImplicit false

namespace RequestFilter

namespace Double

/-! ### Short whole numbers and their divisors -/

namespace IsShort

variable {n k : Nat}

theorem of_lt (small : n < 2 * binade) : IsShort n :=
  ⟨n, 0, by rw [Nat.pow_zero, Nat.mul_one], small, Nat.zero_le _⟩

private theorem of_dvd (short : IsShort n) (positive : 0 < n) (divides : k ∣ n) : IsShort k := by
  obtain ⟨m, e, rfl, bits, small⟩ := short
  obtain ⟨odd, power, left, right, rfl⟩ := Nat.dvd_mul.mp divides
  obtain ⟨j, le, rfl⟩ := (Nat.dvd_prime_pow Nat.prime_two).mp right
  have above : odd ≤ m := Nat.le_of_dvd (Nat.pos_of_mul_pos_right positive) left
  exact ⟨odd, j, rfl, Nat.lt_of_le_of_lt above bits, Nat.le_trans le small⟩

private theorem ofNat_div (left : IsShort n) (right : IsShort k) (positive : 0 < k) :
    ofNat n / ofNat k = ofRatio false n k := by
  obtain ⟨a, finiteA, unitsA, keptA⟩ := left.exists_rank
  obtain ⟨b, finiteB, unitsB, keptB⟩ := right.exists_rank
  have divisor : 0 < units b := unitsB ▸ Nat.mul_pos positive unitsPerOne_pos
  have nonzero : b ≠ 0 := by
    rintro rfl
    exact Nat.lt_irrefl 0 divisor
  have same : units a * unitsPerOne * k = n * unitsPerOne * units b := by
    rw [unitsA, unitsB, Nat.mul_assoc, Nat.mul_comm unitsPerOne k]
  rw [keptA, keptB]
  change div _ _ = _
  rw [div, if_neg (Nat.ne_of_lt finiteA), if_neg (Nat.ne_of_lt finiteB), if_neg nonzero, ofRatio,
    ofRatio, ofUnits, ofUnits, nearestRank_congr divisor positive same]
  rfl

end IsShort

private theorem isShort_of_units {rank m : Nat} (finite : rank < infinityRank)
    (whole : units rank = m * unitsPerOne) : IsShort m := by
  obtain ⟨shift, count, rfl, first, last⟩ := exists_count rank
  rw [units_count first (Nat.le_of_lt last), unitsPerOne_eq_two_pow] at whole
  have top : shift ≤ 2045 := by
    rcases first with rfl | full
    · exact Nat.zero_le _
    · have bound : (shift + 1) * binade < 2047 * binade := by
        rw [Nat.succ_mul]
        have top : infinityRank = 2047 * binade := by decide
        omega
      have := Nat.lt_of_mul_lt_mul_right bound
      omega
  rcases Nat.le_total unitExponent shift with above | below
  · refine ⟨count, shift - unitExponent, ?_, last, Nat.sub_le_sub_right top unitExponent⟩
    have split : 2 ^ shift = 2 ^ (shift - unitExponent) * 2 ^ unitExponent := by
      rw [← Nat.pow_add, Nat.sub_add_cancel above]
    rw [split, ← Nat.mul_assoc] at whole
    exact (Nat.eq_of_mul_eq_mul_right (Nat.two_pow_pos _) whole).symm
  · have split : 2 ^ unitExponent = 2 ^ (unitExponent - shift) * 2 ^ shift := by
      rw [← Nat.pow_add, Nat.sub_add_cancel below]
    rw [split, ← Nat.mul_assoc] at whole
    have steps := Nat.eq_of_mul_eq_mul_right (Nat.two_pow_pos _) whole
    have le : m ≤ count := steps ▸ Nat.le_mul_of_pos_right m (Nat.two_pow_pos _)
    exact .of_lt (Nat.lt_of_le_of_lt le last)

theorem isShort_of_toInt? {x : Double} {z : Int} (whole : x.toInt? = some z) :
    IsShort z.natAbs := by
  obtain ⟨negative, rank, m, -, finite, magnitude, rfl⟩ := exists_units_of_toInt? whole
  have own : (if negative then -(m : Int) else m).natAbs = m := by
    cases negative <;> simp
  rw [own]
  exact isShort_of_units finite magnitude

end Double

namespace Decimal

open Double (IsShort ofNat ofRatio clamp infinityRank)

private theorem powerOfTen_eq (k : Nat) : powerOfTen k = ofNat (10 ^ k) := by
  rw [powerOfTen, Nat.pow_eq]

private theorem le_maxPower_of_isShort {k : Nat} (short : IsShort (10 ^ k)) : k ≤ maxPower := by
  have finite := short.isFinite_ofNat
  rw [ofNat, Double.isFinite_ofRatio_iff _ _ Nat.one_pos, Nat.one_mul] at finite
  have large : Double.overflow ≤ 10 ^ (maxPower + 1) := by decide +kernel
  by_contra above
  have beyond : maxPower + 1 ≤ k := Nat.not_le.mp above
  have power := Nat.pow_le_pow_right (n := 10) (by decide) beyond
  exact Nat.lt_irrefl _ (Nat.lt_of_lt_of_le finite (Nat.le_trans large power))

private theorem shrink_of_le {k : Nat} (le : k ≤ maxPower) (count : Nat) (x : Double) :
    shrink count x k = x / powerOfTen k := by
  cases count with
  | zero => rfl
  | succ count => rw [shrink, if_pos le]

/-- A short significand and a short power of ten are rounded once, to the nearest number. -/
private theorem scaled_of_isShort {d : Decimal} (short : IsShort d.significand)
    (ten : IsShort (10 ^ d.exponent.natAbs)) :
    d.scaled =
      ofRatio false (d.significand * 10 ^ d.exponent.toNat) (10 ^ (-d.exponent).toNat) := by
  have bound := le_maxPower_of_isShort ten
  unfold scaled
  dsimp only
  split
  · have whole : d.exponent.toNat = 0 := by omega
    have power : (-d.exponent).toNat = d.exponent.natAbs := by omega
    rw [shrink_of_le (by omega), powerOfTen_eq, power,
      short.ofNat_div ten (Nat.pow_pos (by decide)), whole, Nat.pow_zero, Nat.mul_one]
  · have whole : (-d.exponent).toNat = 0 := by omega
    have power : d.exponent.toNat = d.exponent.natAbs := by omega
    rw [if_pos (by omega), powerOfTen_eq, power, short.ofNat_mul ten, whole, Nat.pow_zero]
    rfl

/-! ### Zero -/

private theorem ofNat_zero : ofNat 0 = clamp false 0 := by
  rw [ofNat, ofRatio, Double.ofUnits, Nat.zero_mul, Double.nearestRank_zero]

private theorem exists_powerOfTen (k : Nat) : ∃ rank, 0 < rank ∧ powerOfTen k = clamp false rank
    := by
  have one : 0 < 10 ^ k * Double.unitsPerOne :=
    Nat.mul_pos (Nat.pow_pos (by decide)) Double.unitsPerOne_pos
  have first : Double.units 0 + Double.units (0 + 1) = 1 := by decide
  refine ⟨_, Nat.pos_of_ne_zero fun zero => ?_, powerOfTen_eq k⟩
  have below := (Double.nearestRank_le_iff (10 ^ k * Double.unitsPerOne) Nat.one_pos 0).mp
    (Nat.le_of_eq zero)
  rw [first] at below
  omega

private theorem zero_div_powerOfTen (k : Nat) : ofNat 0 / powerOfTen k = ofNat 0 := by
  obtain ⟨rank, positive, power⟩ := exists_powerOfTen k
  have nonzero : min rank infinityRank ≠ 0 := by
    have top : 0 < infinityRank := by decide
    omega
  rw [power, ofNat_zero]
  change Double.div (.ranked false (min 0 infinityRank) _) (.ranked false (min rank infinityRank) _)
    = _
  rw [Double.div, Nat.zero_min, if_neg (by decide), if_neg nonzero, ofRatio, Double.units]
  split
  · rfl
  · rw [Double.ofUnits, Nat.zero_div, Nat.zero_mul, Double.nearestRank_zero]
    rfl

private theorem zero_mul_powerOfTen {k : Nat} (le : k ≤ maxPower) : ofNat 0 * powerOfTen k = ofNat 0
    := by
  have ordered : 10 ^ k ≤ 10 ^ maxPower := Nat.pow_le_pow_right (by decide) le
  have top : 10 ^ maxPower < Double.overflow := by decide +kernel
  have finite : (powerOfTen k).isFinite = true := by
    rw [powerOfTen_eq, ofNat, Double.isFinite_ofRatio_iff _ _ Nat.one_pos, Nat.one_mul]
    exact Nat.lt_of_le_of_lt ordered top
  obtain ⟨rank, -, power⟩ := exists_powerOfTen k
  rw [power, Double.isFinite_clamp_iff] at finite
  have neither : ¬(0 = infinityRank ∨ rank = infinityRank) :=
    not_or.mpr ⟨by decide, Nat.ne_of_lt finite⟩
  rw [power, ofNat_zero, Double.clamp_of_le _ (Nat.zero_le _),
    Double.clamp_of_le _ (Nat.le_of_lt finite)]
  change Double.mul _ _ = _
  rw [Double.mul, if_neg neither, Double.units, Double.ofUnits, Nat.zero_div, Nat.zero_mul,
    Double.nearestRank_zero]
  rfl

private theorem shrink_zero (count k : Nat) : shrink count (ofNat 0) k = ofNat 0 := by
  cases count with
  | zero => exact zero_div_powerOfTen k
  | succ count =>
    rw [shrink]
    split
    · exact zero_div_powerOfTen k
    · rw [if_pos rfl]

private theorem scaled_of_significand_eq_zero {d : Decimal} (zero : d.significand = 0) :
    d.scaled = ofNat 0 := by
  unfold scaled
  dsimp only
  rw [zero]
  split
  · exact shrink_zero _ _
  · split
    · exact zero_mul_powerOfTen (by omega)
    · rw [if_pos rfl]

/-! ### Significands alone -/

private theorem mul_ofNat_one (rank : Nat) : clamp false rank * ofNat 1 = clamp false rank := by
  obtain ⟨one, oneFinite, oneUnits, kept⟩ := (IsShort.of_lt (by decide) : IsShort 1).exists_rank
  rw [Nat.one_mul] at oneUnits
  rw [kept]
  rcases Nat.lt_or_ge rank infinityRank with finite | infinite
  · have neither : ¬(rank = infinityRank ∨ one = infinityRank) := by omega
    have units : Double.units rank * Double.units one = Double.units rank * Double.unitsPerOne := by
      rw [oneUnits]
    rw [Double.clamp_of_le _ (Nat.le_of_lt finite)]
    change Double.mul _ _ = _
    rw [Double.mul, if_neg neither, Double.ofUnits,
      Double.nearestRank_of_units Double.unitsPerOne_pos units]
    exact Double.clamp_of_le _ (Nat.le_of_lt finite)
  · have nonzero : ¬(infinityRank = 0 ∨ one = 0) := by
      refine not_or.mpr ⟨by decide, ?_⟩
      rintro rfl
      exact absurd oneUnits (Nat.ne_of_lt Double.unitsPerOne_pos)
    rw [Double.clamp_of_infinityRank_le _ infinite, Double.clamp_of_le _ (Nat.le_refl _)]
    change Double.mul _ _ = _
    rw [Double.mul, if_pos (Or.inl rfl), if_neg nonzero]
    exact Double.clamp_of_le _ (Nat.le_refl _)

theorem scaled_of_exponent_eq_zero {d : Decimal} (bare : d.exponent = 0) :
    d.scaled = ofNat d.significand := by
  unfold scaled
  dsimp only
  rw [bare, if_neg (by decide), if_pos (by decide), powerOfTen_eq, Int.toNat_zero, Nat.pow_zero]
  exact mul_ofNat_one _

/-! ### Decimals with few digits -/

private theorem isShort_pow {k : Nat} (le : k ≤ 22) : IsShort (10 ^ k) := by
  have last : IsShort (10 ^ 22) := ⟨5 ^ 22, 22, by decide, by decide, by decide⟩
  exact last.of_dvd (by decide) (Nat.pow_dvd_pow 10 le)

theorem scaled_eq_toDouble {d : Decimal} (small : d.significand < 2 * Double.binade)
    (near : d.exponent.natAbs ≤ 22) : d.scaled = d.toDouble false := by
  by_cases zero : d.significand = 0
  · rw [scaled_of_significand_eq_zero zero, toDouble, if_pos (Or.inl zero), ofNat_zero]
  have bound : 2 * Double.binade ≤ 10 ^ 16 := by decide
  have width : decimalWidth d.significand ≤ 16 :=
    (decimalWidth_le_iff (by decide)).mpr (Nat.lt_of_lt_of_le small bound)
  have order : d.order = decimalWidth d.significand + d.exponent := rfl
  rw [scaled_of_isShort (.of_lt small) (isShort_pow near), toDouble, if_neg (by omega),
    if_neg (by omega)]
  simp only [Nat.pow_eq]

/-! ### Whole numbers -/

/-- A decimal that is a short whole number is scaled to that number, if its significand is short too
or is not divided. -/
theorem scaled_of_value_eq {d : Decimal} {n : Nat} (whole : d.value = n) (short : IsShort n)
    (divided : d.exponent < 0 → IsShort d.significand) : d.scaled = ofNat n := by
  have cross := (d.value_eq_iff n).mp whole
  by_cases zero : d.significand = 0
  · have none : n = 0 := by
      rw [zero, Nat.zero_mul] at cross
      exact (Nat.mul_eq_zero.mp cross.symm).resolve_right (Nat.ne_of_gt (Nat.pow_pos (by decide)))
    rw [scaled_of_significand_eq_zero zero, none]
  have positive : 0 < d.significand := Nat.pos_of_ne_zero zero
  have shorts : IsShort d.significand ∧ IsShort (10 ^ d.exponent.natAbs) := by
    by_cases negative : d.exponent < 0
    -- the significand is a multiple of the power that divides it, so both are short
    · have power : (-d.exponent).toNat = d.exponent.natAbs := by omega
      have none : d.exponent.toNat = 0 := by omega
      rw [power, none, Nat.pow_zero, Nat.mul_one] at cross
      exact ⟨divided negative, (divided negative).of_dvd positive ⟨n, by rw [cross, Nat.mul_comm]⟩⟩
    -- the whole number is a multiple of both
    · have power : d.exponent.toNat = d.exponent.natAbs := by omega
      have none : (-d.exponent).toNat = 0 := by omega
      rw [power, none, Nat.pow_zero, Nat.mul_one] at cross
      have above : 0 < n := cross ▸ Nat.mul_pos positive (Nat.pow_pos (by decide))
      exact ⟨short.of_dvd above ⟨_, cross.symm⟩,
        short.of_dvd above ⟨d.significand, by rw [← cross, Nat.mul_comm]⟩⟩
  rw [scaled_of_isShort shorts.1 shorts.2, cross, ofNat, ofRatio, ofRatio, Double.ofUnits,
    Double.ofUnits, Double.nearestRank_congr (Nat.pow_pos (by decide)) Nat.one_pos]
  rw [Nat.mul_one, Nat.mul_right_comm]

end Decimal
end RequestFilter
