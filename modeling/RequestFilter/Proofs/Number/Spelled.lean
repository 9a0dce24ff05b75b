import Mathlib.Algebra.Group.Nat.Defs
import Mathlib.Data.List.Induction
import RequestFilter.Proofs.Number.Digits
import RequestFilter.Proofs.Text.Padding

/-!
Digits of any radix up to sixteen, with letters in either case, and the numbers that they spell.

Reading accepts exactly the spellings of a number, and these are the digits that it is written with,
after any number of zeros.
-/

set_option autoImplicit false

namespace RequestFilter

/-- The character shows the digit `d` of a radix, a letter in either case. -/
def ShowsDigit (radix : Nat) (c : Char) (d : Nat) : Prop := d < radix ∧ c.toLower = Nat.digitChar d

/-- One or more digits spell a number: each digit behind others counts the radix times less. -/
inductive Spells (radix : Nat) : List Char → Nat → Prop
  | digit {c : Char} {d : Nat} (shown : ShowsDigit radix c d) : Spells radix [c] d
  | append {cs : List Char} {n : Nat} {c : Char} {d : Nat} (front : Spells radix cs n)
      (shown : ShowsDigit radix c d) : Spells radix (cs ++ [c]) (n * radix + d)

/-! ### Digits -/

private theorem digitValue?_of_wide {c : Char} (wide : ¬c.toNat < 128) : digitValue? c = none := by
  have above {last : Char} (narrow : last.toNat < 128) : ¬c.val ≤ last.val := by
    intro h
    have bound := UInt32.le_iff_toNat_le.mp h
    exact wide (Nat.lt_of_le_of_lt bound narrow)
  have digit : ¬c.isDigit = true := fun h =>
    above (show '9'.toNat < 128 by decide) (of_decide_eq_true (Bool.and_eq_true_iff.mp h).2)
  have lower : ¬c.isLower = true := fun h =>
    above (show 'z'.toNat < 128 by decide) (of_decide_eq_true (Bool.and_eq_true_iff.mp h).2)
  have upper : ¬c.isUpper = true := fun h =>
    above (show 'Z'.toNat < 128 by decide) (of_decide_eq_true h).2
  rw [digitValue?, if_neg digit, if_neg lower, if_neg upper]

private theorem digitValue?_eq_some_iff {c : Char} {d : Nat} (bound : d < 16) :
    digitValue? c = some d ↔ c.toLower = Nat.digitChar d := by
  by_cases ascii : c.toNat < 128
  · have table : ∀ n < 128, ∀ d < 16,
        (digitValue? (Char.ofNat n) = some d ↔ (Char.ofNat n).toLower = Nat.digitChar d) := by
      decide +kernel
    simpa only [Char.ofNat_toNat] using table c.toNat ascii d bound
  · have narrow : ∀ d < 16, (Nat.digitChar d).toNat < 128 := by decide
    rw [digitValue?_of_wide ascii, Text.toLower_of_wide ascii]
    refine iff_of_false nofun ?_
    rintro rfl
    exact ascii (narrow d bound)

private theorem step_eq_some_iff {radix : Nat} (bound : radix ≤ 16) (n : Nat) (c : Char) (m : Nat) :
    natOfDigits?.step radix n c = some m ↔ ∃ d, ShowsDigit radix c d ∧ m = n * radix + d := by
  simp only [natOfDigits?.step, Option.bind_eq_some_iff, Option.ite_none_right_eq_some,
    Option.some.injEq, ShowsDigit]
  refine exists_congr fun d => ?_
  constructor
  · rintro ⟨value, small, rfl⟩
    exact ⟨⟨small, (digitValue?_eq_some_iff (by omega)).mp value⟩, rfl⟩
  · rintro ⟨⟨small, shown⟩, rfl⟩
    exact ⟨(digitValue?_eq_some_iff (by omega)).mpr shown, small, rfl⟩

/-! ### Reading digits -/

section Reading

variable {radix : Nat}

private theorem natOfDigits?_append {cs : List Char} (some : cs ≠ []) (c : Char) :
    natOfDigits? radix (cs ++ [c]) =
      (natOfDigits? radix cs).bind fun n => natOfDigits?.step radix n c := by
  obtain ⟨d, ds, rfl⟩ := List.exists_cons_of_ne_nil some
  change List.foldlM (natOfDigits?.step radix) 0 (d :: ds ++ [c]) = _
  rw [List.foldlM_append]
  simp only [List.foldlM_cons, List.foldlM_nil, bind_pure]
  rfl

private theorem natOfDigits?_singleton (c : Char) :
    natOfDigits? radix [c] = natOfDigits?.step radix 0 c := by
  simp [natOfDigits?]

theorem Spells.ne_nil {cs : List Char} {n : Nat} (h : Spells radix cs n) : cs ≠ [] := by
  cases h with
  | digit => exact List.cons_ne_nil _ _
  | append => simp

theorem natOfDigits?_eq_some_iff (bound : radix ≤ 16) {cs : List Char} {n : Nat} :
    natOfDigits? radix cs = some n ↔ Spells radix cs n := by
  constructor
  · intro read
    induction cs using List.reverseRecOn generalizing n with
    | nil => cases read
    | append_singleton cs c ih =>
      by_cases empty : cs = []
      · subst empty
        rw [List.nil_append, natOfDigits?_singleton, step_eq_some_iff bound] at read
        obtain ⟨d, shown, rfl⟩ := read
        rw [Nat.zero_mul, Nat.zero_add]
        exact .digit shown
      · rw [natOfDigits?_append empty, Option.bind_eq_some_iff] at read
        obtain ⟨m, front, last⟩ := read
        obtain ⟨d, shown, rfl⟩ := (step_eq_some_iff bound m c n).mp last
        exact .append (ih front) shown
  · intro spelled
    induction spelled with
    | digit shown =>
      rw [natOfDigits?_singleton, step_eq_some_iff bound]
      exact ⟨_, shown, by omega⟩
    | append front shown ih =>
      rw [natOfDigits?_append front.ne_nil, ih]
      exact (step_eq_some_iff bound _ _ _).mpr ⟨_, shown, rfl⟩

end Reading

/-! ### Decimal digits -/

theorem showsDigit_ten_iff (c : Char) (d : Nat) :
    ShowsDigit 10 c d ↔ c.isDigit = true ∧ c.toNat - '0'.toNat = d := by
  have shows {d : Nat} (bound : d < 10) :
      c.toLower = Nat.digitChar d ↔ digitValue? c = some d :=
    (digitValue?_eq_some_iff (Nat.lt_trans bound (by decide))).symm
  constructor
  · rintro ⟨bound, shown⟩
    rw [shows bound, digitValue?] at shown
    by_cases digit : c.isDigit = true
    · rw [if_pos digit] at shown
      exact ⟨digit, Option.some.inj shown⟩
    · -- letters show ten and more
      rw [if_neg digit] at shown
      split at shown
      · have ten := Option.some.inj shown
        omega
      · split at shown
        · have ten := Option.some.inj shown
          omega
        · cases shown
  · rintro ⟨digit, rfl⟩
    have bound := decimalDigit_lt digit
    exact ⟨bound, (shows bound).mpr (by rw [digitValue?, if_pos digit])⟩

theorem spells_ten_iff (cs : List Char) (n : Nat) :
    Spells 10 cs n ↔ cs ≠ [] ∧ (∀ c ∈ cs, c.isDigit = true) ∧ natOfDecimalDigits cs = n := by
  constructor
  · intro spelled
    induction spelled with
    | @digit c d shown =>
      obtain ⟨digit, rfl⟩ := (showsDigit_ten_iff c d).mp shown
      exact ⟨List.cons_ne_nil _ _, by simpa using digit, by simp [natOfDecimalDigits]⟩
    | @append cs n c d front shown ih =>
      obtain ⟨digit, rfl⟩ := (showsDigit_ten_iff c d).mp shown
      obtain ⟨-, digits, rfl⟩ := ih
      refine ⟨by simp, ?_, natOfDecimalDigits_concat cs c⟩
      intro e he
      rcases List.mem_append.mp he with inside | last
      · exact digits e inside
      · rwa [List.mem_singleton.mp last]
  · rintro ⟨some, digits, rfl⟩
    induction cs using List.reverseRecOn with
    | nil => exact absurd rfl some
    | append_singleton cs c ih =>
      have shown : ShowsDigit 10 c (c.toNat - '0'.toNat) :=
        (showsDigit_ten_iff c _).mpr ⟨digits c (by simp), rfl⟩
      rw [natOfDecimalDigits_concat]
      by_cases empty : cs = []
      · subst empty
        rw [List.nil_append, natOfDecimalDigits_nil, Nat.zero_mul, Nat.zero_add]
        exact .digit shown
      · exact .append (ih empty fun d hd => digits d (List.mem_append_left _ hd)) shown

/-! ### Written digits -/

namespace Spells

variable {radix : Nat}

theorem shows {cs : List Char} {n : Nat} (spelled : Spells radix cs n) :
    ∀ c ∈ cs, ∃ d, ShowsDigit radix c d := by
  induction spelled with
  | digit shown =>
    intro c hc
    rw [List.mem_singleton.mp hc]
    exact ⟨_, shown⟩
  | append front shown ih =>
    intro c hc
    rcases List.mem_append.mp hc with inside | last
    · exact ih c inside
    · rw [List.mem_singleton.mp last]
      exact ⟨_, shown⟩

theorem solid {cs : List Char} {n : Nat} (spelled : Spells radix cs n) (bound : radix ≤ 16) :
    ∀ c ∈ cs, Text.isBlank c = false := by
  intro c hc
  obtain ⟨d, below, shown⟩ := spelled.shows c hc
  have table : ∀ d < 16, Text.isBlank (Nat.digitChar d) = false := by decide
  rw [← Text.isCaseless_isBlank, shown]
  exact table d (Nat.lt_of_lt_of_le below bound)

private theorem of_map_toLower {cs ds : List Char} {n : Nat} (spelled : Spells radix ds n)
    (same : cs.map Char.toLower = ds) : Spells radix cs n := by
  have again (c : Char) : c.toLower.toLower = c.toLower := Text.isCaseless_toLower c
  induction spelled generalizing cs with
  | digit shown =>
    obtain ⟨c, rfl, rfl⟩ := List.map_eq_singleton_iff.mp same
    exact .digit ⟨shown.1, by rw [← again, shown.2]⟩
  | append front shown ih =>
    obtain ⟨cs, last, rfl, left, right⟩ := List.map_eq_append_iff.mp same
    obtain ⟨c, rfl, rfl⟩ := List.map_eq_singleton_iff.mp right
    exact .append (ih left) ⟨shown.1, by rw [← again, shown.2]⟩

private theorem zero_cons (positive : 0 < radix) {cs : List Char} {n : Nat}
    (spelled : Spells radix cs n) :
    Spells radix ('0' :: cs) n := by
  have zero : ShowsDigit radix '0' 0 := ⟨positive, rfl⟩
  induction spelled with
  | @digit c d shown =>
    have two := Spells.append (.digit zero) shown
    rwa [Nat.zero_mul, Nat.zero_add] at two
  | append front shown ih => exact .append ih shown

private theorem of_toDigits (lower : 2 ≤ radix) (upper : radix ≤ 16) (n : Nat) :
    Spells radix (Nat.toDigits radix n) n := by
  have shows {d : Nat} (bound : d < radix) : ShowsDigit radix (Nat.digitChar d) d := by
    have small : ∀ d < 16, (Nat.digitChar d).toLower = Nat.digitChar d := by decide
    exact ⟨bound, small d (by omega)⟩
  induction n using Nat.strongRecOn with
  | ind n ih =>
    by_cases single : n < radix
    · rw [Nat.toDigits_of_lt_base single]
      exact .digit (shows single)
    · have less : n / radix < n := Nat.div_lt_self (by omega) (by omega)
      have last := Spells.append (ih _ less) (shows (Nat.mod_lt n (show 0 < radix by omega)))
      rw [Nat.toDigits_of_base_le (by omega) (by omega)]
      rwa [Nat.mul_comm, Nat.div_add_mod] at last

end Spells

/-- Digits spell a number exactly if they are those that it is written with, after any number of
zeros. -/
theorem spells_iff {radix : Nat} (lower : 2 ≤ radix) (upper : radix ≤ 16) (cs : List Char)
    (n : Nat) :
    Spells radix cs n ↔
      ∃ zeros, cs.map Char.toLower = List.replicate zeros '0' ++ Nat.toDigits radix n := by
  constructor
  · intro spelled
    induction spelled with
    | digit shown => exact ⟨0, by simp [Nat.toDigits_of_lt_base shown.1, shown.2]⟩
    | @append cs n c d front shown ih =>
      obtain ⟨zeros, written⟩ := ih
      rcases Nat.eq_zero_or_pos n with rfl | positive
      · -- nothing but zeros so far: the zero that is written for them is one more
        refine ⟨zeros + 1, ?_⟩
        rw [List.map_append, written, Nat.zero_mul, Nat.zero_add, Nat.toDigits_of_lt_base shown.1,
          Nat.toDigits_of_lt_base (by omega), List.replicate_succ', List.map_singleton, shown.2]
        rfl
      · have quotient : (n * radix + d) / radix = n := by
          rw [Nat.mul_comm, Nat.mul_add_div (by omega), Nat.div_eq_of_lt shown.1, Nat.add_zero]
        have rest : (n * radix + d) % radix = d := by
          rw [Nat.mul_comm, Nat.mul_add_mod, Nat.mod_eq_of_lt shown.1]
        have large : radix ≤ n * radix + d :=
          Nat.le_add_right_of_le (Nat.le_mul_of_pos_left radix positive)
        refine ⟨zeros, ?_⟩
        rw [Nat.toDigits_of_base_le (by omega) large, quotient, rest, List.map_append, written,
          List.map_singleton, shown.2, List.append_assoc]
  · rintro ⟨zeros, written⟩
    have padded : Spells radix (List.replicate zeros '0' ++ Nat.toDigits radix n) n := by
      clear written
      induction zeros with
      | zero => exact .of_toDigits lower upper n
      | succ zeros ih => exact ih.zero_cons (by omega)
    exact padded.of_map_toLower written

end RequestFilter
