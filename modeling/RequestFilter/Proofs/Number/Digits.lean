import Mathlib.Algebra.Group.Nat.Defs
import Mathlib.Data.List.Induction
import RequestFilter.Number.Text

/-!
The digits of whole numbers, as they are read and as they are written.
-/

set_option autoImplicit false

namespace RequestFilter

private theorem natOfDecimalDigits_eq_ofDigitChars (cs : List Char) :
    natOfDecimalDigits cs = Nat.ofDigitChars 10 cs 0 := by
  simp only [natOfDecimalDigits, Nat.ofDigitChars_eq_foldl, Nat.mul_comm]

@[simp]
theorem natOfDecimalDigits_decimalDigits (n : Nat) : natOfDecimalDigits (decimalDigits n) = n := by
  rw [natOfDecimalDigits_eq_ofDigitChars, decimalDigits, Nat.ofDigitChars_ten_toDigits]

theorem decimalDigits_injective : Function.Injective decimalDigits :=
  Function.LeftInverse.injective natOfDecimalDigits_decimalDigits

theorem natOfDecimalDigits_nil : natOfDecimalDigits [] = 0 := rfl

theorem natOfDecimalDigits_concat (cs : List Char) (c : Char) :
    natOfDecimalDigits (cs ++ [c]) = natOfDecimalDigits cs * 10 + (c.toNat - '0'.toNat) := by
  simp only [natOfDecimalDigits, List.foldl_append, List.foldl_cons, List.foldl_nil]

theorem natOfDecimalDigits_append (cs ds : List Char) :
    natOfDecimalDigits (cs ++ ds) =
      natOfDecimalDigits cs * 10 ^ ds.length + natOfDecimalDigits ds := by
  induction ds using List.reverseRecOn with
  | nil => simp [natOfDecimalDigits]
  | append_singleton ds d ih =>
    rw [← List.append_assoc, natOfDecimalDigits_concat, natOfDecimalDigits_concat, ih,
      List.length_append, List.length_singleton, Nat.pow_succ, Nat.add_mul, Nat.mul_assoc,
      Nat.add_assoc]

theorem decimalDigit_lt {c : Char} (digit : c.isDigit = true) : c.toNat - '0'.toNat < 10 := by
  have last : c.toNat ≤ '9'.toNat :=
    UInt32.le_iff_toNat_le.mp (of_decide_eq_true (Bool.and_eq_true_iff.mp digit).2)
  have nine : '9'.toNat - '0'.toNat = 9 := rfl
  omega

theorem natOfDecimalDigits_lt {cs : List Char} (digits : ∀ c ∈ cs, c.isDigit = true) :
    natOfDecimalDigits cs < 10 ^ cs.length := by
  induction cs using List.reverseRecOn with
  | nil => decide
  | append_singleton cs c ih =>
    have front := ih fun d hd => digits d (List.mem_append_left _ hd)
    have last := decimalDigit_lt (digits c (by simp))
    rw [natOfDecimalDigits_concat, List.length_append, List.length_singleton, Nat.pow_succ]
    omega

theorem natOfDecimalDigits_append_zeros (cs : List Char) (k : Nat) :
    natOfDecimalDigits (cs ++ List.replicate k '0') = natOfDecimalDigits cs * 10 ^ k := by
  simp only [natOfDecimalDigits_eq_ofDigitChars, Nat.ofDigitChars_append,
    Nat.ofDigitChars_replicate_zero, Nat.mul_comm]

theorem natOfDecimalDigits_zeros_append (k : Nat) (cs : List Char) :
    natOfDecimalDigits (List.replicate k '0' ++ cs) = natOfDecimalDigits cs := by
  simp only [natOfDecimalDigits_eq_ofDigitChars, Nat.ofDigitChars_append,
    Nat.ofDigitChars_replicate_zero, Nat.mul_zero]

theorem isDigit_of_mem_decimalDigits {n : Nat} {c : Char} (h : c ∈ decimalDigits n) :
    c.isDigit = true :=
  Nat.isDigit_of_mem_toDigits (by decide) (by decide) h

theorem decimalDigits_ne_nil (n : Nat) : decimalDigits n ≠ [] := Nat.toDigits_ne_nil

private theorem decimalDigits_of_ten_le {n : Nat} (h : 10 ≤ n) :
    decimalDigits n = decimalDigits (n / 10) ++ [Nat.digitChar (n % 10)] :=
  Nat.toDigits_of_base_le (by decide) h

theorem decimalDigits_eq_cons {n : Nat} (h : 0 < n) :
    ∃ d ds, decimalDigits n = d :: ds ∧ d ≠ '0' := by
  induction n using Nat.strongRecOn with
  | ind n ih =>
    by_cases small : n < 10
    · refine ⟨Nat.digitChar n, [], Nat.toDigits_of_lt_base small, ?_⟩
      simp only [ne_eq, Nat.digitChar_eq_zero]
      omega
    · obtain ⟨d, ds, tenth, nonzero⟩ := ih (n / 10) (by omega) (by omega)
      refine ⟨d, ds ++ [Nat.digitChar (n % 10)], ?_, nonzero⟩
      rw [decimalDigits_of_ten_le (by omega), tenth, List.cons_append]

theorem decimalDigits_mul_pow {n : Nat} (h : 0 < n) (k : Nat) :
    decimalDigits (n * 10 ^ k) = decimalDigits n ++ List.replicate k '0' := by
  induction k with
  | zero => simp
  | succ k ih =>
    have positive : 0 < n * 10 ^ k := Nat.mul_pos h (Nat.pow_pos (by decide))
    have split : n * 10 ^ (k + 1) = n * 10 ^ k * 10 := by rw [Nat.pow_succ, Nat.mul_assoc]
    rw [split, decimalDigits_of_ten_le (by omega), Nat.mul_div_cancel _ (by decide),
      Nat.mul_mod_left, ih, List.append_assoc, List.replicate_succ']
    rfl

private theorem decimalWidth_eq_length (n : Nat) : decimalWidth n = (decimalDigits n).length := rfl

theorem decimalWidth_pos (n : Nat) : 0 < decimalWidth n := Nat.length_toDigits_pos

theorem decimalWidth_mul_pow {n : Nat} (h : 0 < n) (k : Nat) :
    decimalWidth (n * 10 ^ k) = decimalWidth n + k := by
  rw [decimalWidth_eq_length, decimalDigits_mul_pow h, List.length_append, List.length_replicate,
    ← decimalWidth_eq_length]

theorem decimalWidth_le_iff {n k : Nat} (h : 0 < k) : decimalWidth n ≤ k ↔ n < 10 ^ k :=
  Nat.length_toDigits_le_iff (by decide) h

theorem lt_decimalWidth_iff {n k : Nat} (h : 0 < k) : k < decimalWidth n ↔ 10 ^ k ≤ n := by
  have := decimalWidth_le_iff (n := n) h
  omega

theorem pow_decimalWidth_le {n : Nat} (positive : 0 < n) : 10 ^ (decimalWidth n - 1) ≤ n := by
  by_cases single : decimalWidth n - 1 = 0
  · rw [single, Nat.pow_zero]
    exact positive
  · have width := decimalWidth_pos n
    exact (lt_decimalWidth_iff (by omega)).mp (by omega)

end RequestFilter
