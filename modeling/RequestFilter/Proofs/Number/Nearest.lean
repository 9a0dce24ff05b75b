import Mathlib.Algebra.Group.Nat.Defs
import Mathlib.Order.Monotone.Basic
import Mathlib.Tactic.SplitIfs
import RequestFilter.Number.Double

/-!
The rank that rounding finds is the nearest one.

Between two ranks that follow each other the middle decides: what lies below it is rounded down,
what lies above is rounded up, and the middle itself goes to the even rank. So each rank is nearest
to its own magnitude.
-/

set_option autoImplicit false

namespace RequestFilter.Double

/-! ### Steps between magnitudes -/

theorem units_count {shift count : Nat} (first : shift = 0 ∨ binade ≤ count)
    (last : count ≤ 2 * binade) : units (shift * binade + count) = count * 2 ^ shift := by
  have positive : 0 < binade := by decide
  have block {e r : Nat} (inside : r < binade) :
      units ((e + 1) * binade + r) = (binade + r) * 2 ^ e := by
    have quotient : ((e + 1) * binade + r) / binade = e + 1 := by
      rw [Nat.mul_comm, Nat.mul_add_div positive, Nat.div_eq_of_lt inside, Nat.add_zero]
    have rest : ((e + 1) * binade + r) % binade = r := by
      rw [Nat.mul_comm, Nat.mul_add_mod, Nat.mod_eq_of_lt inside]
    rw [units, quotient]
    simp only [rest, Nat.pow_eq]
  rcases Nat.lt_or_ge count binade with small | large
  · -- only the first part holds magnitudes of fewer steps
    obtain rfl : shift = 0 := first.resolve_right (Nat.not_le_of_lt small)
    rw [Nat.zero_mul, Nat.zero_add, units, Nat.div_eq_of_lt small, Nat.pow_zero, Nat.mul_one]
  · rcases Nat.lt_or_eq_of_le last with inside | rfl
    · have split : shift * binade + count = (shift + 1) * binade + (count - binade) := by
        rw [Nat.succ_mul]
        omega
      rw [split, block (by omega), Nat.add_sub_cancel' large]
    · have split : shift * binade + 2 * binade = (shift + 1 + 1) * binade + 0 := by
        rw [Nat.add_mul (shift + 1), Nat.add_mul shift]
        omega
      rw [split, block positive, Nat.add_zero, Nat.pow_succ, Nat.mul_comm (2 ^ shift) 2,
        ← Nat.mul_assoc, Nat.mul_comm binade 2]

/-- Every rank counts steps of one power of two. -/
theorem exists_count (rank : Nat) :
    ∃ shift count, rank = shift * binade + count ∧ (shift = 0 ∨ binade ≤ count) ∧
      count < 2 * binade := by
  have split := Nat.div_add_mod rank binade
  have below : rank % binade < binade := Nat.mod_lt _ (by decide)
  cases part : rank / binade with
  | zero =>
    rw [part, Nat.mul_zero, Nat.zero_add] at split
    exact ⟨0, rank, by omega, Or.inl rfl, by omega⟩
  | succ e =>
    rw [part, Nat.mul_comm, Nat.succ_mul] at split
    exact ⟨e, binade + rank % binade, by omega, Or.inr (by omega), by omega⟩

theorem units_strictMono : StrictMono units := by
  apply strictMono_nat_of_lt_succ
  intro rank
  obtain ⟨shift, count, rfl, first, last⟩ := exists_count rank
  have next : units (shift * binade + (count + 1)) = (count + 1) * 2 ^ shift :=
    units_count (first.imp_right fun h => by omega) last
  rw [units_count first (Nat.le_of_lt last), Nat.add_assoc, next]
  exact (Nat.mul_lt_mul_right (Nat.two_pow_pos shift)).mpr (Nat.lt_succ_self count)

/-! ### The nearest rank -/

/-- The step is chosen so that a quotient counts it with at most 53 bits, and with all of them
unless the step is the first. -/
private theorem count_bounds (q : Nat) :
    (q.log2 - 52 = 0 ∨ binade ≤ q / 2 ^ (q.log2 - 52)) ∧ q / 2 ^ (q.log2 - 52) < 2 * binade := by
  constructor
  · refine or_iff_not_imp_left.mpr fun later => ?_
    have nonzero : q ≠ 0 := by
      rintro rfl
      exact later rfl
    have length : 2 ^ 52 * 2 ^ (q.log2 - 52) ≤ q := by
      rw [← Nat.pow_add, Nat.add_sub_of_le (by omega)]
      exact Nat.log2_self_le nonzero
    exact (Nat.le_div_iff_mul_le (Nat.two_pow_pos _)).mpr length
  · rw [Nat.div_lt_iff_lt_mul (Nat.two_pow_pos _)]
    calc q
        < 2 ^ (q.log2 + 1) := Nat.lt_log2_self
      _ ≤ 2 ^ (53 + (q.log2 - 52)) := Nat.pow_le_pow_right (by decide) (by omega)
      _ = 2 * binade * 2 ^ (q.log2 - 52) := by rw [Nat.pow_add]; rfl

/-- A quotient lies in the step that rounding looks at, and what is left over decides. -/
private theorem exists_nearestRank_eq (num : Nat) {den : Nat} (positive : 0 < den) :
    ∃ rank left step, den * units rank + left = num ∧ left < step ∧
      den * units (rank + 1) = den * units rank + step ∧
      nearestRank num den =
        if 2 * left < step then rank
        else if step < 2 * left then rank + 1 else rank + rank % 2 := by
  obtain ⟨first, last⟩ := count_bounds (num / den)
  rw [Nat.div_div_eq_div_mul] at first last
  have split := Nat.div_add_mod num (den * 2 ^ ((num / den).log2 - 52))
  have inside : num % (den * 2 ^ ((num / den).log2 - 52)) < den * 2 ^ ((num / den).log2 - 52) :=
    Nat.mod_lt _ (Nat.mul_pos positive (Nat.two_pow_pos _))
  simp only [nearestRank, Nat.pow_eq]
  generalize (num / den).log2 - 52 = shift at first last split inside ⊢
  generalize num % (den * 2 ^ shift) = left at split inside ⊢
  generalize num / (den * 2 ^ shift) = count at first last split ⊢
  have here := units_count first (Nat.le_of_lt last)
  have next : units (shift * binade + (count + 1)) = (count + 1) * 2 ^ shift :=
    units_count (first.imp_right fun h => Nat.le_succ_of_le h) last
  have even : (shift * binade + count) % 2 = count % 2 := by
    have half : binade = 2 * (binade / 2) := by decide
    rw [half, Nat.mul_left_comm, Nat.mul_add_mod]
  refine ⟨shift * binade + count, left, den * 2 ^ shift, ?_, inside, ?_, ?_⟩
  · rw [here, ← split, Nat.mul_comm count, Nat.mul_assoc]
  · rw [Nat.add_assoc, next, here, Nat.succ_mul, Nat.mul_add]
  · rw [even]

/-- The nearest rank lies at or below a rank exactly if the quotient lies below the middle between
that rank and the next, or in the middle where the rank is even. -/
theorem nearestRank_le_iff (num : Nat) {den : Nat} (positive : 0 < den) (r : Nat) :
    nearestRank num den ≤ r ↔
      2 * num < den * (units r + units (r + 1)) ∨
        2 * num = den * (units r + units (r + 1)) ∧ r % 2 = 0 := by
  obtain ⟨rank, left, step, split, inside, next, found⟩ := exists_nearestRank_eq num positive
  have ordered {a b : Nat} (h : a ≤ b) : den * units a ≤ den * units b :=
    Nat.mul_le_mul_left den (units_strictMono.monotone h)
  have rises := (Nat.mul_lt_mul_left positive).mpr (units_strictMono (Nat.lt_succ_self r))
  rw [found, Nat.mul_add]
  rcases Nat.lt_trichotomy r rank with above | rfl | below
  · have under := ordered (Nat.succ_le_of_lt above)
    rw [Nat.succ_eq_add_one] at rises under
    refine iff_of_false ?_ (by omega)
    split_ifs <;> omega
  · split_ifs <;> omega
  · have reached := ordered (Nat.succ_le_of_lt below)
    rw [Nat.succ_eq_add_one] at rises reached
    refine iff_of_true ?_ (Or.inl (by omega))
    split_ifs <;> omega

theorem nearestRank_units (rank : Nat) : nearestRank (units rank) 1 = rank := by
  have next : units rank < units (rank + 1) := units_strictMono (Nat.lt_succ_self rank)
  apply Nat.le_antisymm
  · rw [nearestRank_le_iff _ Nat.one_pos]
    omega
  · rw [← Nat.not_lt]
    intro below
    obtain ⟨r, rfl⟩ := Nat.exists_eq_succ_of_ne_zero (Nat.ne_of_gt (Nat.zero_lt_of_lt below))
    have before : units r < units (r + 1) := units_strictMono (Nat.lt_succ_self r)
    rw [Nat.lt_succ_iff, nearestRank_le_iff _ Nat.one_pos, Nat.succ_eq_add_one] at below
    omega

end RequestFilter.Double
