import RequestFilter.Number.Shortest
import RequestFilter.Proofs.Number.Integral
import RequestFilter.Proofs.Number.Whole

/-!
The fewest digits of a number read back as that number.

A neighbour on a grid is only taken if it reads back. Should no grid have one, the magnitude itself
is written as a decimal, and that lies within the orders that are not cut off when it is read. A
whole number stands on a grid of whole numbers, so its digits have no point.
-/

set_option autoImplicit false

namespace RequestFilter

namespace Decimal

private theorem exists_padded_trimFor (fuel : Nat) (d : Decimal) :
    ∃ k, (trimFor fuel d).padded k = d := by
  induction fuel generalizing d with
  | zero => exact ⟨0, by simp [trimFor, padded]⟩
  | succ fuel ih =>
    rw [trimFor]
    split
    · rename_i ten
      obtain ⟨k, same⟩ := ih ⟨d.significand / 10, d.exponent + 1⟩
      obtain ⟨significand, exponent⟩ := Decimal.mk.injEq .. ▸ same
      have tenfold : d.significand / 10 * 10 = d.significand :=
        Nat.div_mul_cancel (Nat.dvd_of_mod_eq_zero ten.2)
      refine ⟨k + 1, ?_⟩
      rw [padded, Nat.pow_succ, ← Nat.mul_assoc, significand, tenfold]
      congr 1
      omega
    · exact ⟨0, by simp [padded]⟩

private theorem exists_padded_trim (d : Decimal) : ∃ k, d.trim.padded k = d :=
  exists_padded_trimFor _ d

private theorem toDouble_trim (d : Decimal) (negative : Bool) :
    d.trim.toDouble negative = d.toDouble negative := by
  obtain ⟨k, padded⟩ := d.exists_padded_trim
  rw [← toDouble_padded k, padded]

end Decimal

namespace Double

/-! ### Magnitudes -/

theorem units_pos {rank : Nat} (h : 0 < rank) : 0 < units rank := by
  unfold units
  split
  · exact h
  · exact Nat.mul_pos (Nat.add_pos_left (by decide) _) (Nat.pow_pos (by decide))

def topExponent : Nat := 2045

private theorem units_lt {rank : Nat} (finite : rank < infinityRank) :
    units rank < 2 * binade * 2 ^ topExponent := by
  have above : infinityRank = topExponent * binade + 2 * binade := by decide
  have infinite : units infinityRank = 2 * binade * 2 ^ topExponent := by
    rw [above]
    exact units_count (Or.inr (by decide)) (by decide)
  rw [← infinite]
  exact units_strictMono finite

/-! ### The magnitude as a decimal -/

private theorem significand_exactDecimal (rank : Nat) :
    (exactDecimal rank).significand = units rank * 5 ^ unitExponent := by
  unfold exactDecimal
  generalize unitExponent = e
  rw [Nat.pow_eq]

private theorem decimalWidth_exactDecimal {rank : Nat} (positive : 0 < rank)
    (finite : rank < infinityRank) :
    744 < decimalWidth (exactDecimal rank).significand ∧
      decimalWidth (exactDecimal rank).significand ≤ 1384 := by
  have least : 10 ^ 744 ≤ 1 * 5 ^ unitExponent := by decide +kernel
  have most : 2 * binade * 2 ^ topExponent * 5 ^ unitExponent < 10 ^ 1384 := by decide +kernel
  have fives : 0 < 5 ^ unitExponent := Nat.pow_pos (by decide)
  rw [significand_exactDecimal]
  generalize 5 ^ unitExponent = p at least most fives
  constructor
  · rw [lt_decimalWidth_iff (by decide)]
    exact Nat.le_trans least (Nat.mul_le_mul_right p (units_pos positive))
  · rw [decimalWidth_le_iff (by decide)]
    exact Nat.lt_trans ((Nat.mul_lt_mul_right fives).mpr (units_lt finite)) most

private theorem order_exactDecimal {rank : Nat} (positive : 0 < rank) (finite : rank < infinityRank)
    :
    -330 ≤ (exactDecimal rank).order ∧ (exactDecimal rank).order ≤ 310 := by
  have width := decimalWidth_exactDecimal positive finite
  have exponent : (exactDecimal rank).exponent = -1074 := rfl
  simp only [Decimal.order, exponent]
  omega

private theorem nearestRank_mul_five_pow (num e : Nat) :
    nearestRank (num * 5 ^ e * 2 ^ e) (10 ^ e) = nearestRank num 1 := by
  apply nearestRank_congr (Nat.pow_pos (by decide)) Nat.one_pos
  rw [Nat.mul_one, Nat.mul_assoc, ← Nat.mul_pow]

private theorem toDouble_exactDecimal {rank : Nat} (positive : 0 < rank)
    (finite : rank < infinityRank) :
    (exactDecimal rank).toDouble false = clamp false rank := by
  have bounds := order_exactDecimal positive finite
  have nonzero : (exactDecimal rank).significand ≠ 0 := by
    rw [significand_exactDecimal]
    exact Nat.ne_of_gt (Nat.mul_pos (units_pos positive) (Nat.pow_pos (by decide)))
  rw [Decimal.toDouble, if_neg (by omega), if_neg (by omega), ofRatio, ofUnits,
    unitsPerOne_eq_two_pow]
  simp only [exactDecimal, Nat.pow_eq, Int.neg_neg, Int.toNat_natCast, Int.toNat_neg_natCast,
    Nat.pow_zero, Nat.mul_one, nearestRank_mul_five_pow, nearestRank_units]

/-! ### The fewest digits -/

private theorem readsBack_of_choose? {rank : Nat} {preferLow : Bool} {low high d : Decimal}
    (h : choose? rank preferLow low high = some d) : readsBack rank d = true := by
  unfold choose? at h
  split at h
  · rename_i readLow readHigh
    split at h <;> cases h
    · exact readLow
    · exact readHigh
  · cases h
    assumption
  · cases h
    assumption
  · cases h

private theorem readsBack_of_neighbour? {tie : Tie} {rank count : Nat} {d : Decimal}
    (h : neighbour? tie rank count = some d) : readsBack rank d = true := by
  unfold neighbour? at h
  exact readsBack_of_choose? h

/-- The fewest digits of a finite number read back as it, with either sign. -/
theorem toDouble_shortest (tie : Tie) {rank : Nat} (positive : 0 < rank)
    (finite : rank < infinityRank) (negative : Bool) :
    (shortest tie rank).toDouble negative = clamp negative rank := by
  apply Decimal.toDouble_eq_clamp
  rw [shortest, if_neg (Nat.ne_of_gt positive)]
  split
  · rename_i d found
    obtain ⟨n, -, taken⟩ := List.exists_of_findSome?_eq_some found
    exact of_decide_eq_true (readsBack_of_neighbour? taken)
  · exact toDouble_exactDecimal positive finite

theorem significand_shortest_pos (tie : Tie) {rank : Nat} (positive : 0 < rank)
    (finite : rank < infinityRank) : 0 < (shortest tie rank).significand := by
  rw [Nat.pos_iff_ne_zero]
  intro zero
  have read := toDouble_shortest tie positive finite false
  rw [Decimal.toDouble, if_pos (Or.inl zero), clamp_of_le false (Nat.zero_le _),
    clamp_of_le false (Nat.le_of_lt finite)] at read
  cases read
  exact absurd positive (Nat.lt_irrefl 0)

/-! ### Whole numbers -/

private theorem eq_or_eq_of_choose? {rank : Nat} {preferLow : Bool} {low high d : Decimal}
    (h : choose? rank preferLow low high = some d) : d = low ∨ d = high := by
  unfold choose? at h
  split at h
  · cases h
    split
    · exact Or.inl rfl
    · exact Or.inr rfl
  · cases h
    exact Or.inl rfl
  · cases h
    exact Or.inr rfl
  · cases h

section Whole

variable {rank n : Nat} (whole : units rank = n * unitsPerOne) (positive : 0 < n)
include whole positive

private theorem decimalOrder_whole : decimalOrder rank = decimalWidth n := by
  have ones (k : Nat) : units rank * Nat.pow 10 k / unitsPerOne = n * 10 ^ k := by
    rw [whole, Nat.mul_right_comm, Nat.mul_div_cancel _ unitsPerOne_pos, Nat.pow_eq]
  simp only [decimalOrder, ones, decimalWidth_mul_pow positive]
  omega

private theorem exists_neighbour?_whole (tie : Tie) :
    ∃ d, neighbour? tie rank (decimalWidth n) = some d := by
  have low : readsBack rank (Decimal.trim ⟨n, 0⟩) = true := by
    have nearest : nearestRank (n * unitsPerOne) 1 = rank :=
      nearestRank_of_units Nat.one_pos (by rw [whole, Nat.mul_one])
    have own : Decimal.toDouble false ⟨n, 0⟩ = clamp false rank := by
      rw [Decimal.toDouble_of_value_eq (Decimal.value_natCast n), ofRatio, ofUnits, nearest]
    exact decide_eq_true ((Decimal.toDouble_trim _ _).trans own)
  have below : units rank * Nat.pow 10 0 / (unitsPerOne * Nat.pow 10 0) = n := by
    rw [whole, Nat.pow_eq, Nat.pow_zero, Nat.mul_one, Nat.mul_one,
      Nat.mul_div_cancel _ unitsPerOne_pos]
  rw [neighbour?, decimalOrder_whole whole positive, Int.sub_self]
  simp only [Int.neg_zero, Int.toNat_zero, below, choose?, low]
  split
  · exact ⟨_, rfl⟩
  · exact ⟨_, rfl⟩
  · rename_i nothing _
    cases nothing
  · rename_i nothing _
    cases nothing

private theorem neighbour?_le {tie : Tie} {count : Nat} {d : Decimal} (counted : 0 < count)
    (le : count ≤ decimalWidth n) (taken : neighbour? tie rank count = some d) :
    0 ≤ d.exponent ∧ d.significand * 10 ^ d.exponent.toNat ≤ 2 * n := by
  obtain ⟨power, sum⟩ := Nat.exists_eq_add_of_le le
  have grid : decimalOrder rank - count = power := by
    rw [decimalOrder_whole whole positive]
    omega
  have step : 10 ^ power ≤ n := by
    refine Nat.le_trans (Nat.pow_le_pow_right (by decide) ?_) (pow_decimalWidth_le positive)
    omega
  have below : units rank * Nat.pow 10 0 / (unitsPerOne * Nat.pow 10 power) * 10 ^ power ≤ n := by
    rw [whole, Nat.pow_eq, Nat.pow_zero, Nat.mul_one, Nat.mul_comm n, Nat.pow_eq,
      Nat.mul_div_mul_left _ _ unitsPerOne_pos]
    exact Nat.div_mul_le_self n _
  rw [neighbour?, grid] at taken
  simp only [Int.toNat_natCast, Int.toNat_neg_natCast] at taken
  generalize units rank * Nat.pow 10 0 / (unitsPerOne * Nat.pow 10 power) = low at *
  obtain ⟨m, bound, rfl⟩ : ∃ m, m * 10 ^ power ≤ 2 * n ∧ d = Decimal.trim ⟨m, power⟩ := by
    rcases eq_or_eq_of_choose? taken with rfl | rfl
    · exact ⟨low, by omega, rfl⟩
    · exact ⟨low + 1, by rw [Nat.succ_mul]; omega, rfl⟩
  obtain ⟨k, padded⟩ := Decimal.exists_padded_trim ⟨m, power⟩
  obtain ⟨significand, exponent⟩ := Decimal.mk.injEq .. ▸ padded
  have order : (Decimal.trim ⟨m, power⟩).exponent = ((k + power : Nat) : Int) := by omega
  refine ⟨by omega, ?_⟩
  rw [order, Int.toNat_natCast, Nat.pow_add, ← Nat.mul_assoc, significand]
  exact bound

/-- The fewest digits of a whole number have no point, and are those of a number that is not twice
as large. -/
theorem shortest_whole_le (tie : Tie) (width : decimalWidth n ≤ 17) :
    0 ≤ (shortest tie rank).exponent ∧
      (shortest tie rank).significand * 10 ^ (shortest tie rank).exponent.toNat ≤ 2 * n := by
  have nonzero : rank ≠ 0 := by
    rintro rfl
    exact absurd whole (Nat.ne_of_lt (Nat.mul_pos positive unitsPerOne_pos))
  obtain ⟨last, own⟩ := exists_neighbour?_whole whole positive tie
  have digits := decimalWidth_pos n
  rw [shortest, if_neg nonzero]
  split
  · rename_i d found
    obtain ⟨before, count, after, range, taken, none⟩ := List.findSome?_eq_some_iff.mp found
    obtain ⟨first, -, rfl, later⟩ :=
      List.range'_eq_append_iff.mp ((List.range_eq_range' ..).symm.trans range)
    obtain ⟨rfl, -⟩ := List.range'_eq_cons_iff.mp later.symm
    -- the whole number is its own neighbour, so no finer grid has been tried
    refine neighbour?_le whole positive (Nat.succ_pos _) (Nat.not_lt.mp fun beyond => ?_) taken
    have earlier := none (decimalWidth n - 1) (List.mem_range'_1.mpr (by omega))
    rw [Nat.sub_add_cancel digits, own] at earlier
    cases earlier
  · rename_i nothing
    have none := List.findSome?_eq_none_iff.mp nothing (decimalWidth n - 1)
      (List.mem_range.mpr (by omega))
    rw [Nat.sub_add_cancel digits, own] at none
    cases none

end Whole
end Double
end RequestFilter
