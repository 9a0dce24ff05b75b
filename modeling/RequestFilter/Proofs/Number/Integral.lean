import RequestFilter.Proofs.Number.Overflow

/-!
Whole numbers, in decimal and rounded.

A decimal that is a whole number is rounded as the whole number is, however its digits and its power
of ten are given, and a whole number that is a number of 64 bits is rounded to itself.
-/

set_option autoImplicit false

namespace RequestFilter

namespace Double

/-! ### Rounding whole numbers -/

theorem nearestRank_zero (den : Nat) : nearestRank 0 den = 0 := by
  simp [nearestRank]

theorem clamp_of_infinityRank_le (negative : Bool) {rank : Nat} (h : infinityRank ≤ rank) :
    clamp negative rank = clamp negative infinityRank := by
  simp only [clamp, Nat.min_eq_right h, Nat.min_self]

private theorem ofRatio_of_overflow_le (negative : Bool) {n : Nat} (large : overflow ≤ n) :
    ofRatio negative n 1 = clamp negative infinityRank := by
  apply clamp_of_infinityRank_le
  rw [← Nat.not_lt, nearestRank_lt_infinityRank_iff _ Nat.one_pos, Nat.one_mul,
    Nat.mul_lt_mul_right unitsPerOne_pos]
  exact Nat.not_lt.mpr large

/-! ### The whole number that a number is -/

private theorem toUnits?_clamp_infinityRank (negative : Bool) :
    (clamp negative infinityRank).toUnits? = none := by
  rw [clamp_of_le negative (Nat.le_refl _), toUnits?, if_neg (Nat.lt_irrefl _)]

private theorem toUnits?_clamp (negative : Bool) (rank : Nat) :
    (clamp negative rank).toUnits? =
      (clamp false rank).toUnits?.map fun u => if negative then -u else u := by
  by_cases finite : rank < infinityRank
  · have le := Nat.le_of_lt finite
    rw [clamp_of_le negative le, clamp_of_le false le, toUnits?, toUnits?, if_pos finite,
      if_pos finite, if_neg Bool.false_ne_true, Option.map_some]
  · have infinite := Nat.le_of_not_lt finite
    rw [clamp_of_infinityRank_le negative infinite, clamp_of_infinityRank_le false infinite,
      toUnits?_clamp_infinityRank, toUnits?_clamp_infinityRank, Option.map_none]

private theorem toInt?_clamp_false_eq_some_iff {rank : Nat} {k : Int} :
    (clamp false rank).toInt? = some k ↔
      rank < infinityRank ∧ (units rank : Int) = k * unitsPerOne := by
  have one : (unitsPerOne : Int) ≠ 0 := by
    have positive := unitsPerOne_pos
    omega
  by_cases finite : rank < infinityRank
  · rw [clamp_of_le false (Nat.le_of_lt finite), toInt?, toUnits?, if_pos finite,
      if_neg Bool.false_ne_true, Option.bind_some, Option.ite_none_right_eq_some,
      Option.some.injEq, ← Int.dvd_iff_emod_eq_zero]
    constructor
    · rintro ⟨divides, rfl⟩
      exact ⟨finite, (Int.ediv_mul_cancel divides).symm⟩
    · rintro ⟨-, exact⟩
      exact ⟨⟨k, by rw [exact, Int.mul_comm]⟩, by rw [exact, Int.mul_ediv_cancel k one]⟩
  · rw [clamp_of_infinityRank_le false (Nat.le_of_not_lt finite), toInt?,
      toUnits?_clamp_infinityRank, Option.bind_none]
    exact iff_of_false (Option.some_ne_none k).symm fun h => finite h.1

theorem isFinite_of_toInt? {x : Double} {k : Int} (whole : x.toInt? = some k) :
    x.isFinite = true := by
  cases x with
  | nan => cases whole
  | ranked negative rank le =>
    obtain ⟨u, counted, -⟩ := Option.bind_eq_some_iff.mp whole
    rw [toUnits?, Option.ite_none_right_eq_some] at counted
    exact decide_eq_true counted.1

private theorem toInt?_clamp (negative : Bool) (rank : Nat) :
    (clamp negative rank).toInt? =
      (clamp false rank).toInt?.map fun k => if negative then -k else k := by
  rw [toInt?, toInt?, toUnits?_clamp]
  cases (clamp false rank).toUnits? with
  | none => rfl
  | some u =>
    rw [Option.map_some, Option.bind_some, Option.bind_some]
    -- The divisor is a number of a thousand bits, which is not to be evaluated.
    generalize (unitsPerOne : Int) = one
    cases negative with
    | false => exact Option.map_id'.symm
    | true =>
      have same : -u % one = 0 ↔ u % one = 0 := by
        rw [← Int.dvd_iff_emod_eq_zero, ← Int.dvd_iff_emod_eq_zero, Int.dvd_neg]
      by_cases whole : u % one = 0
      · simp [same, whole, Int.neg_ediv_of_dvd (Int.dvd_of_emod_eq_zero whole)]
      · simp [same, whole]

private theorem ofInt_natCast (m : Nat) : ofInt m = ofNat m := by
  have nonneg : ¬ (m : Int) < 0 := Int.not_lt.mpr (Int.natCast_nonneg m)
  rw [ofInt, decide_eq_false nonneg, Int.natAbs_natCast, ofNat]

private theorem toInt?_zero (negative : Bool) : (clamp negative 0).toInt? = some 0 := by
  have magnitude : (clamp false 0).toInt? = some 0 :=
    toInt?_clamp_false_eq_some_iff.mpr ⟨by decide, by rw [Int.zero_mul]; rfl⟩
  rw [toInt?_clamp, magnitude]
  cases negative <;> rfl

/-- A rounded magnitude with a sign is whole as the rounded whole number is; zero has either
sign. -/
theorem toInt?_ofRatio (negative : Bool) (m : Nat) :
    (ofRatio negative m 1).toInt? = (ofInt (if negative then -(m : Int) else m)).toInt? := by
  cases negative with
  | false => rw [if_neg Bool.false_ne_true, ofInt_natCast, ofNat]
  | true =>
    rw [if_pos rfl]
    cases m with
    | zero =>
      rw [ofRatio, ofUnits, ofInt, ofRatio, ofUnits, Int.natCast_zero, Int.neg_zero,
        Int.natAbs_zero, Nat.zero_mul, nearestRank_zero, toInt?_zero, toInt?_zero]
    | succ m =>
      have below : -((m + 1 : Nat) : Int) < 0 := by omega
      rw [ofInt, decide_eq_true below, Int.natAbs_neg, Int.natAbs_natCast]

theorem exists_units_of_toInt? {x : Double} {z : Int} (whole : x.toInt? = some z) :
    ∃ negative rank m, x = clamp negative rank ∧ rank < infinityRank ∧
      units rank = m * unitsPerOne ∧ z = if negative then -(m : Int) else m := by
  cases x with
  | nan => cases whole
  | ranked negative rank le =>
    rw [← clamp_of_le negative le, toInt?_clamp] at whole
    obtain ⟨k, magnitude, rfl⟩ := Option.map_eq_some_iff.mp whole
    obtain ⟨finite, exact⟩ := toInt?_clamp_false_eq_some_iff.mp magnitude
    have nonneg : 0 ≤ k := by
      have units : 0 ≤ k * unitsPerOne := exact ▸ Int.natCast_nonneg (units rank)
      exact nonneg_of_mul_nonneg_left units (Int.natCast_pos.mpr unitsPerOne_pos)
    obtain ⟨m, rfl⟩ := Int.eq_ofNat_of_zero_le nonneg
    exact ⟨negative, rank, m, (clamp_of_le negative le).symm, finite, by exact_mod_cast exact, rfl⟩

theorem toInt?_ofInt {x : Double} {z : Int} (whole : x.toInt? = some z) :
    (ofInt z).toInt? = some z := by
  obtain ⟨negative, rank, m, rfl, finite, magnitude, rfl⟩ := exists_units_of_toInt? whole
  have nearest : nearestRank (m * unitsPerOne) 1 = rank := by rw [← magnitude, nearestRank_units]
  have own : (clamp false rank).toInt? = some (m : Int) :=
    toInt?_clamp_false_eq_some_iff.mpr ⟨finite, by exact_mod_cast magnitude⟩
  rw [← toInt?_ofRatio, ofRatio, ofUnits, nearest, toInt?_clamp, own, Option.map_some]

end Double

/-! ### Decimals that are whole numbers -/

namespace Decimal

open Double (overflow)

theorem toDouble_of_value_eq {d : Decimal} {n : Nat} (whole : d.value = n) (negative : Bool) :
    d.toDouble negative = .ofRatio negative n 1 := by
  unfold toDouble
  split
  · rename_i small
    obtain rfl : n = 0 := by
      have below := value_lt_one small
      rw [whole] at below
      exact Nat.lt_one_iff.mp (by exact_mod_cast below)
    rw [Double.ofRatio, Nat.zero_mul, Double.ofUnits, Double.nearestRank_zero]
  · split
    · rename_i kept high
      have above := overflow_le_value (not_or.mp kept).1 high
      rw [whole] at above
      rw [Double.ofRatio_of_overflow_le negative (by exact_mod_cast above)]
    · have cross := (d.value_eq_iff n).mp whole
      simp only [Double.ofRatio, Double.ofUnits, Nat.pow_eq]
      rw [Double.nearestRank_congr (Nat.pow_pos (by decide)) Nat.one_pos]
      rw [cross, Nat.mul_one, Nat.mul_right_comm]

end Decimal
end RequestFilter
