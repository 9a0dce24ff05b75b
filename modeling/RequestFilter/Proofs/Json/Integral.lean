import RequestFilter.Proofs.Json.Taken

/-!
Numerals that are whole numbers.

A whole number may be spelled with its digits alone, with zeros behind a point, or with an exponent.
Digits alone are kept if 64 bits hold them. Every other spelling is read as a number of 64 bits, in
two steps that both round: its digits without the point, and their product with a power of ten or
their quotient by one.
-/

set_option autoImplicit false

namespace RequestFilter.Json.Numeral

/-- The rational number that a numeral denotes. -/
def value (n : Numeral) : ℚ := if n.negative then -n.decimal.value else n.decimal.value

/-- Digits and nothing else. -/
structure IsPlain (n : Numeral) : Prop where
  positive : n.negative = false
  whole : n.fraction = none
  bare : n.exponent = none

variable {n : Numeral} {z : Int}

private theorem value_decimal_of_digits (whole : n.fraction = none) (bare : n.exponent = none) :
    n.decimal.value = natOfDecimalDigits n.whole := by
  simp [decimal, power, whole, bare, Decimal.ofDigits, Decimal.value]

private theorem exists_magnitude (denotes : n.value = z) :
    ∃ m : Nat, n.decimal.value = m ∧ z = if n.negative then -(m : Int) else m := by
  have nonneg : 0 ≤ n.decimal.value := mul_nonneg (Nat.cast_nonneg _) (zpow_nonneg (by norm_num) _)
  cases sign : n.negative with
  | false =>
    rw [value, sign, if_neg Bool.false_ne_true] at denotes
    rw [denotes] at nonneg
    obtain ⟨m, rfl⟩ := Int.eq_ofNat_of_zero_le (by exact_mod_cast nonneg : 0 ≤ z)
    exact ⟨m, by exact_mod_cast denotes, rfl⟩
  | true =>
    rw [value, sign, if_pos rfl, neg_eq_iff_eq_neg, ← Int.cast_neg] at denotes
    rw [denotes] at nonneg
    obtain ⟨m, magnitude⟩ := Int.eq_ofNat_of_zero_le (by exact_mod_cast nonneg : 0 ≤ -z)
    rw [magnitude] at denotes
    exact ⟨m, by exact_mod_cast denotes, by rw [if_pos rfl]; omega⟩

/-- A numeral that denotes a whole number of 64 bits, of which 64 bits hold the magnitude, is read
as that number, if its significand is a number of 64 bits too or is not divided. -/
theorem toInt?_double {x : Double} (formed : n.IsWellFormed) (denotes : n.value = z)
    (whole : x.toInt? = some z) (bound : z.natAbs < 0x10000000000000000)
    (divided : n.taken.exponent < 0 → Double.IsShort n.taken.significand) :
    n.double.toInt? = some z := by
  have short := Double.isShort_of_toInt? whole
  obtain ⟨m, magnitude, rfl⟩ := exists_magnitude denotes
  have own : (if n.negative then -(m : Int) else m).natAbs = m := by
    cases n.negative <;> simp
  rw [own] at bound short
  have scaled := Decimal.scaled_of_value_eq (value_taken formed magnitude bound) short divided
  have signed : n.double = .ofRatio n.negative m 1 := by
    rw [double, scaled]
    cases n.negative <;> rfl
  rw [signed, Double.toInt?_ofRatio, Double.toInt?_ofInt whole]

theorem toInt?_number (marked : ¬n.IsPlain) : n.number.toDouble.toInt? = n.double.toInt? := by
  unfold number
  dsimp only
  split
  · rename_i plain
    have whole := Option.isNone_iff_eq_none.mp plain.1
    have bare := Option.isNone_iff_eq_none.mp plain.2
    split
    · rename_i negative
      split
      · rename_i inside
        have decimal : n.decimal = ⟨natOfDecimalDigits n.whole, 0⟩ := by
          simp [decimal, power, whole, bare, Decimal.ofDigits]
        have taken : n.taken = ⟨natOfDecimalDigits n.whole, 0⟩ := by
          rw [← decimal]
          refine taken_of_lt ?_
          rw [decimal]
          exact Nat.lt_of_le_of_lt inside.2 (by decide)
        rw [double, negative, if_pos rfl, taken, Decimal.scaled_of_exponent_eq_zero rfl]
        exact (Double.toInt?_ofRatio true (natOfDecimalDigits n.whole)).symm
      · rfl
    · rename_i positive
      exact absurd ⟨Bool.eq_false_iff.mpr positive, whole, bare⟩ marked
  · rfl

theorem number_of_isPlain (plain : n.IsPlain) (denotes : n.value = z) (bound : z < 2 ^ 64) :
    ∃ m : Nat, n.number = .natural m ∧ z = m := by
  obtain ⟨m, magnitude, rfl⟩ := exists_magnitude denotes
  rw [value_decimal_of_digits plain.whole plain.bare] at magnitude
  have digits : natOfDecimalDigits n.whole = m := by exact_mod_cast magnitude
  refine ⟨m, ?_, by simp [plain.positive]⟩
  rw [plain.positive, if_neg Bool.false_ne_true] at bound
  have small : m < 0x10000000000000000 := by omega
  simp [number, plain.whole, plain.bare, plain.positive, digits, small]

theorem isPlain_of_number {m : Nat} (natural : n.number = .natural m) : n.IsPlain := by
  unfold number at natural
  dsimp only at natural
  split at natural
  · rename_i plain
    split at natural
    · split at natural <;> cases natural
    · rename_i positive
      exact ⟨Bool.eq_false_iff.mpr positive, Option.isNone_iff_eq_none.mp plain.1,
        Option.isNone_iff_eq_none.mp plain.2⟩
  · cases natural

end RequestFilter.Json.Numeral
