import Mathlib.Tactic.Ring
import RequestFilter.Proofs.Json.Numeral
import RequestFilter.Proofs.Number.Exact

/-!
Which digits of a numeral are taken.

Digits are collected as long as 64 bits hold the number that they spell. If a numeral denotes a
whole number that 64 bits hold, the digits that are left are zeros, so nothing is lost by leaving
them.
-/

set_option autoImplicit false

namespace RequestFilter.Json.Numeral

/-! ### Collecting digits -/

/-- How digits that follow others are cut: 64 bits hold those that are used, and would not hold the
next one. -/
structure IsCut (before cs used left : List Char) : Prop where
  whole : cs = used ++ left
  fits : used = [] ∨ natOfDecimalDigits (before ++ used) < 0x10000000000000000
  full : ∀ c ∈ left.head?, 0x10000000000000000 ≤ natOfDecimalDigits (before ++ used ++ [c])

private theorem exists_collect (before cs : List Char) :
    ∃ used left, IsCut before cs used left ∧
      collect (natOfDecimalDigits before) cs = (natOfDecimalDigits (before ++ used), left) := by
  induction cs generalizing before with
  | nil => exact ⟨[], [], ⟨rfl, Or.inl rfl, by simp⟩, by rw [List.append_nil]; rfl⟩
  | cons c cs ih =>
    have next := natOfDecimalDigits_concat before c
    rw [collect, ← next]
    split
    · rename_i small
      obtain ⟨used, left, cut, collected⟩ := ih (before ++ [c])
      rw [List.append_assoc] at collected
      refine ⟨c :: used, left, ⟨?_, Or.inr ?_, ?_⟩, collected⟩
      · rw [cut.whole, List.cons_append]
      · rcases cut.fits with rfl | fits
        · exact small
        · rwa [List.append_assoc] at fits
      · simpa [List.append_assoc] using cut.full
    · rename_i large
      refine ⟨[], c :: cs, ⟨rfl, Or.inl rfl, ?_⟩, by rw [List.append_nil]⟩
      rintro _ ⟨⟩
      rw [List.append_nil]
      exact Nat.not_lt.mp large

private theorem collect_of_lt {before cs : List Char}
    (small : natOfDecimalDigits (before ++ cs) < 0x10000000000000000) :
    collect (natOfDecimalDigits before) cs = (natOfDecimalDigits (before ++ cs), []) := by
  obtain ⟨used, left, cut, collected⟩ := exists_collect before cs
  cases left with
  | nil => rw [collected, cut.whole, List.append_nil]
  | cons c rest =>
    have full := cut.full c rfl
    rw [cut.whole, List.append_cons, ← List.append_assoc, ← List.append_assoc,
      natOfDecimalDigits_append] at small
    have tens : 0 < 10 ^ rest.length := Nat.pow_pos (by decide)
    have grown := Nat.le_mul_of_pos_right (natOfDecimalDigits (before ++ used ++ [c])) tens
    omega

/-- If a number below a bound is given by digits that reach the bound before their end, the digits
from there on are zeros: moving the point to where the number is whole divides by a power of ten. -/
private theorem natOfDecimalDigits_left {used left : List Char} {bound m a b : Nat}
    (digits : ∀ c ∈ left, c.isDigit = true) (below : m < bound)
    (full : ∀ c ∈ left.head?, bound ≤ natOfDecimalDigits (used ++ [c]))
    (whole : natOfDecimalDigits (used ++ left) * 10 ^ a = m * 10 ^ b) :
    natOfDecimalDigits left = 0 := by
  cases left with
  | nil => rfl
  | cons c rest =>
    have reached : bound * 10 ^ rest.length ≤ natOfDecimalDigits (used ++ c :: rest) := by
      rw [List.append_cons, natOfDecimalDigits_append]
      exact Nat.le_add_right_of_le (Nat.mul_le_mul_right _ (full c rfl))
    -- otherwise the digits would spell a number from the bound on
    have moved : a + (c :: rest).length ≤ b := by
      by_contra short
      have le : b ≤ rest.length + a := by
        rw [List.length_cons] at short
        omega
      have less : m * 10 ^ b < bound * 10 ^ rest.length * 10 ^ a := by
        rw [Nat.mul_assoc, ← Nat.pow_add]
        exact Nat.mul_lt_mul_of_lt_of_le below (Nat.pow_le_pow_right (by decide) le)
          (Nat.pow_pos (by decide))
      have more := Nat.mul_le_mul_right (10 ^ a) reached
      omega
    have divides : 10 ^ (c :: rest).length ∣ natOfDecimalDigits (used ++ c :: rest) := by
      have split : m * 10 ^ b = m * 10 ^ (b - a) * 10 ^ a := by
        rw [Nat.mul_assoc, ← Nat.pow_add, Nat.sub_add_cancel (by omega)]
      rw [split] at whole
      rw [Nat.eq_of_mul_eq_mul_right (Nat.pow_pos (by decide)) whole]
      exact Nat.dvd_mul_left_of_dvd (Nat.pow_dvd_pow 10 (by omega)) m
    rw [natOfDecimalDigits_append, Nat.dvd_add_right (Nat.dvd_mul_left _ _)] at divides
    exact Nat.eq_zero_of_dvd_of_lt divides (natOfDecimalDigits_lt digits)

/-! ### What is taken of a numeral -/

variable {n : Numeral}

private theorem IsWellFormed.isDigit (formed : n.IsWellFormed) :
    ∀ c ∈ n.whole ++ n.fraction.getD [], c.isDigit = true := by
  intro c hc
  rcases List.mem_append.mp hc with whole | fraction
  · exact formed.whole.isDigit c whole
  · cases present : n.fraction with
    | none =>
      rw [present] at fraction
      cases fraction
    | some ds =>
      rw [present] at fraction
      exact (formed.fraction ds present).2 c fraction

theorem taken_of_lt (small : n.decimal.significand < 0x10000000000000000) :
    n.taken = n.decimal := by
  have all : natOfDecimalDigits (n.whole ++ n.fraction.getD []) < 0x10000000000000000 := small
  have front : natOfDecimalDigits ([] ++ n.whole) < 0x10000000000000000 := by
    have tens : 0 < 10 ^ (n.fraction.getD []).length := Nat.pow_pos (by decide)
    have grown := Nat.le_mul_of_pos_right (natOfDecimalDigits n.whole) tens
    rw [natOfDecimalDigits_append] at all
    rw [List.nil_append]
    omega
  have first := collect_of_lt front
  rw [natOfDecimalDigits_nil, List.nil_append] at first
  simp only [taken, first, collect_of_lt all, decimal, Decimal.ofDigits, List.length_nil,
    Int.natCast_zero, Int.add_zero]

private theorem exists_taken (n : Numeral) :
    ∃ used later used' ignored, IsCut [] n.whole used later ∧
      IsCut used (n.fraction.getD []) used' ignored ∧
      n.taken = ⟨natOfDecimalDigits (used ++ used'),
        n.decimal.exponent + later.length + ignored.length⟩ := by
  obtain ⟨used, later, cut, first⟩ := exists_collect [] n.whole
  obtain ⟨used', ignored, cut', second⟩ := exists_collect used (n.fraction.getD [])
  refine ⟨used, later, used', ignored, cut, cut', ?_⟩
  rw [natOfDecimalDigits_nil, List.nil_append] at first
  simp only [taken, first, second]
  rfl

/-- Where digits before the point are left, the digits that are left are zeros, and none behind the
point is used. -/
private theorem used_eq_nil {used later fraction used' ignored : List Char}
    (cut : IsCut [] n.whole used later) (some : later ≠ [])
    (cut' : IsCut used fraction used' ignored)
    (zeros : natOfDecimalDigits (later ++ fraction) = 0) : used' = [] := by
  obtain ⟨c, rest, rfl⟩ := List.exists_cons_of_ne_nil some
  have full := cut.full c rfl
  rw [List.nil_append, natOfDecimalDigits_append] at full
  rw [List.cons_append, ← List.singleton_append, natOfDecimalDigits_append] at zeros
  have tens (k : Nat) : 0 < 10 ^ k := Nat.pow_pos (by decide)
  have zero : natOfDecimalDigits [c] = 0 :=
    (Nat.mul_eq_zero.mp (Nat.add_eq_zero_iff.mp zeros).1).resolve_right (Nat.ne_of_gt (tens _))
  cases used' with
  | nil => rfl
  | cons d ds =>
    have fits := cut'.fits.resolve_left (List.cons_ne_nil d ds)
    rw [natOfDecimalDigits_append, List.length_cons, Nat.pow_succ] at fits
    have grown := Nat.le_mul_of_pos_left 10 (tens ds.length)
    have more := Nat.mul_le_mul_left (natOfDecimalDigits used) grown
    rw [zero, List.length_singleton, Nat.pow_one] at full
    omega

private theorem significand_of_isCut {m a b : Nat} {used later used' ignored : List Char}
    (formed : n.IsWellFormed) (cut : IsCut [] n.whole used later)
    (cut' : IsCut used (n.fraction.getD []) used' ignored) (bound : m < 0x10000000000000000)
    (whole : n.decimal.significand * 10 ^ a = m * 10 ^ b) :
    n.decimal.significand =
      natOfDecimalDigits (used ++ used') * 10 ^ (later.length + ignored.length) := by
  have digits := formed.isDigit
  change natOfDecimalDigits (n.whole ++ n.fraction.getD []) * _ = _ at whole
  change natOfDecimalDigits (n.whole ++ n.fraction.getD []) = _
  -- where digits before the point are left, those behind it cannot be used in their place
  by_cases none : later = []
  · have all := cut.whole
    rw [none, List.append_nil] at all
    rw [all, cut'.whole, ← List.append_assoc] at whole digits ⊢
    have left := natOfDecimalDigits_left
      (fun c hc => digits c (List.mem_append_right _ hc)) bound cut'.full whole
    rw [natOfDecimalDigits_append, left, none, List.length_nil, Nat.zero_add, Nat.add_zero]
  · rw [cut.whole, List.append_assoc] at whole digits ⊢
    have full : ∀ c ∈ (later ++ n.fraction.getD []).head?,
        0x10000000000000000 ≤ natOfDecimalDigits (used ++ [c]) := by
      intro c head
      obtain ⟨d, rest, rfl⟩ := List.exists_cons_of_ne_nil none
      exact cut.full c head
    have left := natOfDecimalDigits_left
      (fun c hc => digits c (List.mem_append_right _ hc)) bound full whole
    obtain rfl := used_eq_nil cut none cut' left
    rw [cut'.whole, List.nil_append] at left ⊢
    rw [natOfDecimalDigits_append, left, List.append_nil, List.length_append, Nat.add_zero]

/-- A whole number that 64 bits hold is taken as it is. -/
theorem value_taken {m : Nat} (formed : n.IsWellFormed) (whole : n.decimal.value = m)
    (bound : m < 0x10000000000000000) : n.taken.value = m := by
  obtain ⟨used, later, used', ignored, cut, cut', taken⟩ := n.exists_taken
  have zeros := significand_of_isCut formed cut cut' bound ((n.decimal.value_eq_iff m).mp whole)
  rw [← whole, taken, Decimal.value, Decimal.value, zeros, zpow_add₀ (by norm_num),
    zpow_add₀ (by norm_num), zpow_natCast, zpow_natCast]
  push_cast
  ring

end RequestFilter.Json.Numeral
