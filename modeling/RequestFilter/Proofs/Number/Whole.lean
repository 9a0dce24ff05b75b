import RequestFilter.Proofs.Number.Rounding

/-!
Whole numbers that are kept exactly.

A whole number of at most 53 bits with zeros behind them is a magnitude, so nothing is lost when it
is rounded, and the product of two such numbers is the rounded product of the whole numbers.
-/

set_option autoImplicit false

namespace RequestFilter.Double

/-- A whole number of at most 53 bits, with up to as many zeros behind them as a number of 64 bits
can have. -/
def IsShort (n : Nat) : Prop := ∃ m e, n = m * 2 ^ e ∧ m < 2 * binade ∧ e ≤ 971

private theorem exists_units_eq {m e : Nat} (bits : m < 2 * binade) (small : e ≤ 2045) :
    ∃ rank < infinityRank, units rank = m * 2 ^ e := by
  have finite {e count : Nat} (small : e ≤ 2045) (bits : count < 2 * binade) :
      e * binade + count < infinityRank := by
    have steps : e * binade ≤ 2045 * binade := Nat.mul_le_mul_right binade small
    have top : 2045 * binade + 2 * binade = infinityRank := by decide
    omega
  induction e generalizing m with
  | zero =>
    have own : units (0 * binade + m) = m * 2 ^ 0 := units_count (Or.inl rfl) (Nat.le_of_lt bits)
    exact ⟨0 * binade + m, finite small bits, own⟩
  | succ e ih =>
    rcases Nat.lt_or_ge m binade with half | full
    · -- the same magnitude in twice as many steps of half the length
      obtain ⟨rank, below, twice⟩ := ih (m := 2 * m) (by omega) (by omega)
      exact ⟨rank, below, by rw [twice, Nat.pow_succ, Nat.mul_comm 2 m, Nat.mul_assoc,
        Nat.mul_comm 2]⟩
    · exact ⟨(e + 1) * binade + m, finite small bits,
        units_count (Or.inr full) (Nat.le_of_lt bits)⟩

theorem nearestRank_of_units {num den rank : Nat} (positive : 0 < den)
    (exact : num = units rank * den) : nearestRank num den = rank := by
  rw [nearestRank_congr positive Nat.one_pos (c := units rank) (by rw [exact, Nat.mul_one]),
    nearestRank_units]

namespace IsShort

variable {n k : Nat}

theorem exists_rank (short : IsShort n) :
    ∃ rank, ∃ finite : rank < infinityRank, units rank = n * unitsPerOne ∧
      ofNat n = .ranked false rank (Nat.le_of_lt finite) := by
  obtain ⟨m, e, rfl, bits, small⟩ := short
  obtain ⟨rank, finite, magnitude⟩ :=
    exists_units_eq (e := e + unitExponent) bits (Nat.add_le_add_right small unitExponent)
  have units : units rank = m * 2 ^ e * unitsPerOne := by
    rw [magnitude, Nat.pow_add, unitsPerOne_eq_two_pow, Nat.mul_assoc]
  have nearest : nearestRank (m * 2 ^ e * unitsPerOne) 1 = rank :=
    nearestRank_of_units Nat.one_pos (by rw [units, Nat.mul_one])
  refine ⟨rank, finite, units, ?_⟩
  rw [ofNat, ofRatio, ofUnits, nearest, clamp_of_le false (Nat.le_of_lt finite)]

theorem isFinite_ofNat (short : IsShort n) : (ofNat n).isFinite = true := by
  obtain ⟨rank, finite, -, kept⟩ := short.exists_rank
  rw [kept]
  exact decide_eq_true finite

theorem toInt?_ofNat (short : IsShort n) : (ofNat n).toInt? = some (n : Int) := by
  obtain ⟨rank, finite, magnitude, kept⟩ := short.exists_rank
  have one : (unitsPerOne : Int) ≠ 0 := by
    have positive := unitsPerOne_pos
    omega
  rw [kept, toInt?, toUnits?, if_pos finite, if_neg Bool.false_ne_true, magnitude, Int.natCast_mul,
    Option.bind_some, Int.mul_emod_left, if_pos rfl, Int.mul_ediv_cancel _ one]

theorem ofNat_mul (left : IsShort n) (right : IsShort k) : ofNat n * ofNat k = ofNat (n * k) := by
  obtain ⟨a, finiteA, unitsA, keptA⟩ := left.exists_rank
  obtain ⟨b, finiteB, unitsB, keptB⟩ := right.exists_rank
  have finite : ¬(a = infinityRank ∨ b = infinityRank) := by omega
  have same : n * unitsPerOne * (k * unitsPerOne) * 1 = n * k * unitsPerOne * unitsPerOne := by
    rw [Nat.mul_one, Nat.mul_mul_mul_comm, Nat.mul_assoc (n * k)]
  rw [keptA, keptB]
  change mul _ _ = _
  rw [mul, if_neg finite, unitsA, unitsB, ofUnits,
    nearestRank_congr unitsPerOne_pos Nat.one_pos same]
  rfl

end IsShort

end RequestFilter.Double
