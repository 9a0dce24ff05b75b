import RequestFilter.Proofs.Size.Whole

/-!
Whole numbers of any size, in decimal and as literals of another radix.

Decimal digits are rounded to the nearest number, while a literal must fit a word of 64 bits before
it is rounded. Both are read alike below that bound, and again where decimal digits are refused as
well because they would be rounded to infinity. In between only the decimal digits are a number.
-/

set_option autoImplicit false

namespace RequestFilter.Size

private theorem ofText?_bare {cs : List Char} {n : Nat} (spelled : SpellsWhole cs n) :
    ofText? (.ofList cs) = (number? cs).map (· * .ofNat 1) := by
  rw [ofText?, String.toList_ofList, splitUnit_bare spelled.last]

/-- Decimal digits and a literal of the same whole number are read alike exactly if the number fits
a word of 64 bits or is rounded to infinity. -/
theorem ofText?_digits_eq_literal_iff {n radix : Nat} {mark : Char} {decimal digits : List Char}
    (spelledDecimal : Spells 10 decimal n) (marked : Marks mark radix)
    (spelled : Spells radix digits n) :
    ofText? (.ofList decimal) = ofText? (.ofList ('0' :: mark :: digits)) ↔
      n < 2 ^ 64 ∨ Double.overflow ≤ n := by
  rw [ofText?_bare (.decimal spelledDecimal), ofText?_bare (.literal marked spelled),
    number?_digits spelledDecimal, number?_literal marked spelled]
  by_cases fits : n < 2 ^ 64
  · have finite : n < Double.overflow := Nat.lt_of_lt_of_le fits (by decide +kernel)
    rw [if_pos finite, if_pos fits]
    exact iff_of_true rfl (Or.inl fits)
  · rw [if_neg fits]
    by_cases finite : n < Double.overflow
    · rw [if_pos finite]
      exact iff_of_false nofun (not_or.mpr ⟨fits, Nat.not_le.mpr finite⟩)
    · rw [if_neg finite]
      exact iff_of_true rfl (Or.inr (Nat.not_lt.mp finite))

/-- The largest word of 64 bits. -/
theorem ofText?_digits_eq_literal_iff_applied :
    let n := 2 ^ 64 - 1
    Spells 10 "18446744073709551615".toList n ∧ Marks 'x' 16 ∧
      Spells 16 "FFFFffffFFFFffff".toList n ∧
      ofText? "18446744073709551615" = ofText? "0xFFFFffffFFFFffff" := by
  intro n
  have decimal : Spells 10 "18446744073709551615".toList n :=
    (spells_iff (by decide) (by decide) _ n).mpr ⟨0, by decide +kernel⟩
  have digits : Spells 16 "FFFFffffFFFFffff".toList n :=
    (spells_iff (by decide) (by decide) _ n).mpr ⟨0, by decide +kernel⟩
  have marked : Marks 'x' 16 := .hexadecimal (Or.inl rfl)
  have alike := (ofText?_digits_eq_literal_iff decimal marked digits).mpr (Or.inl (by decide))
  exact ⟨decimal, marked, digits, alike⟩

/-- The next number is read from its decimal digits and refused as a literal. -/
theorem not_digits_eq_literal_word :
    ¬ ∀ (n radix : Nat) (mark : Char) (decimal digits : List Char), Spells 10 decimal n →
        Marks mark radix → Spells radix digits n →
        ofText? (.ofList decimal) = ofText? (.ofList ('0' :: mark :: digits)) := by
  intro alike
  have decimal : Spells 10 "18446744073709551616".toList (2 ^ 64) :=
    (spells_iff (by decide) (by decide) _ _).mpr ⟨0, by decide +kernel⟩
  have digits : Spells 16 "10000000000000000".toList (2 ^ 64) :=
    (spells_iff (by decide) (by decide) _ _).mpr ⟨0, by decide +kernel⟩
  have same := alike _ _ _ _ _ decimal (.hexadecimal (Or.inl rfl)) digits
  exact absurd same (by decide +kernel)

end RequestFilter.Size
