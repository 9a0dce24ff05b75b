import RequestFilter.Json.NumberText
import RequestFilter.Proofs.Json.Taken
import RequestFilter.Proofs.Number.Shortest

/-!
The texts of numbers, read again.

The text of a finite number is that of a well-formed numeral that denotes the shortest decimal of
the number, with zeros at the end of the significand at most. The nearest number to that is the
number, but reading rounds twice and may find a neighbour of it. It does not where the digits that
are written have 53 bits, and the power of ten is small.
-/

set_option autoImplicit false

namespace RequestFilter.Json

/-! ### Positional and scientific decimals -/

def fractionOrZero (fraction : List Char) : List Char :=
  if fraction.isEmpty then ['0'] else fraction

private theorem fractionOrZero_of_ne_nil {fraction : List Char} (h : fraction ≠ []) :
    fractionOrZero fraction = fraction := by
  rw [fractionOrZero, if_neg (by simpa using h)]

/-- Digits before and after a point spell a decimal, with zeros at the end of its significand at
most. -/
structure SpelledBy (d : Decimal) (whole fraction : List Char) : Prop where
  isWhole : Numeral.IsWhole whole
  isDigits : Numeral.IsDigits fraction
  value : ∃ k ≤ (d.exponent + 1).toNat, Decimal.ofDigits whole fraction 0 = d.padded k

section Positional

variable {d : Decimal} (positive : 0 < d.significand)

include positive

private theorem spelledBy_of_exponent_nonneg (h : 0 ≤ d.exponent) :
    SpelledBy d (decimalDigits d.significand ++ List.replicate d.exponent.toNat '0') ['0'] := by
  rw [← decimalDigits_mul_pow positive]
  refine ⟨Numeral.isWhole_decimalDigits _, Numeral.isDigits_zero, d.exponent.toNat + 1, by omega, ?_⟩
  have significand : natOfDecimalDigits
        (decimalDigits (d.significand * 10 ^ d.exponent.toNat) ++ ['0']) =
      d.significand * 10 ^ (d.exponent.toNat + 1) := by
    rw [decimalDigits_mul_pow positive, List.append_assoc, ← List.replicate_succ',
      natOfDecimalDigits_append_zeros, natOfDecimalDigits_decimalDigits]
  simp only [Decimal.ofDigits, significand, Decimal.padded, List.length_singleton,
    Decimal.mk.injEq, true_and]
  omega

private theorem spelledBy_of_order_pos (negative : d.exponent < 0) (inside : 0 < d.order) :
    SpelledBy d ((decimalDigits d.significand).take d.order.toNat)
      ((decimalDigits d.significand).drop d.order.toNat) := by
  obtain ⟨first, others, digits, nonzero⟩ := decimalDigits_eq_cons positive
  have width : (decimalDigits d.significand).length = decimalWidth d.significand := rfl
  have order : d.order = decimalWidth d.significand + d.exponent := rfl
  refine ⟨Or.inr ⟨first, others.take (d.order.toNat - 1), ?_, nonzero, ?_⟩, ⟨?_, ?_⟩, 0,
    Nat.zero_le _, ?_⟩
  · rw [digits]
    exact List.take_cons (by omega)
  · exact fun c hc => isDigit_of_mem_decimalDigits (List.mem_of_mem_take hc)
  · rw [ne_eq, List.drop_eq_nil_iff]
    omega
  · exact fun c hc => isDigit_of_mem_decimalDigits (List.mem_of_mem_drop hc)
  · simp only [Decimal.ofDigits, List.take_append_drop, natOfDecimalDigits_decimalDigits,
      Decimal.padded, List.length_drop, Decimal.mk.injEq]
    omega

omit positive in
private theorem spelledBy_of_order_nonpos (below : d.order ≤ 0) :
    SpelledBy d ['0']
      (List.replicate (-d.order).toNat '0' ++ decimalDigits d.significand) := by
  have width : (decimalDigits d.significand).length = decimalWidth d.significand := rfl
  have order : d.order = decimalWidth d.significand + d.exponent := rfl
  refine ⟨Or.inl rfl,
    ⟨List.append_ne_nil_of_right_ne_nil _ (decimalDigits_ne_nil _), ?_⟩, 0, Nat.zero_le _, ?_⟩
  · intro c hc
    rcases List.mem_append.mp hc with zero | digit
    · rw [List.eq_of_mem_replicate zero]
      decide
    · exact isDigit_of_mem_decimalDigits digit
  · have zeros : ['0'] ++ (List.replicate (-d.order).toNat '0' ++ decimalDigits d.significand) =
        List.replicate ((-d.order).toNat + 1) '0' ++ decimalDigits d.significand := rfl
    simp only [Decimal.ofDigits, zeros, natOfDecimalDigits_zeros_append,
      natOfDecimalDigits_decimalDigits, Decimal.padded, List.length_append,
      List.length_replicate, Decimal.mk.injEq]
    omega

private theorem spelledBy_positional {whole fraction : List Char}
    (h : d.positional = (whole, fraction)) : SpelledBy d whole (fractionOrZero fraction) := by
  unfold Decimal.positional at h
  simp only at h
  split at h
  · cases h
    exact spelledBy_of_exponent_nonneg positive ‹_›
  · split at h
    · cases h
      have spelled := spelledBy_of_order_pos positive (Int.not_le.mp ‹_›) ‹_›
      rwa [fractionOrZero_of_ne_nil spelled.isDigits.1]
    · cases h
      have spelled := spelledBy_of_order_nonpos (Int.not_lt.mp ‹_›)
      rwa [fractionOrZero_of_ne_nil spelled.isDigits.1]

end Positional

def scientificNumeral (negative : Bool) (d : Decimal) : Numeral where
  negative := negative
  whole := (decimalDigits d.significand).take 1
  fraction :=
    if (decimalDigits d.significand).length ≤ 1 then none
    else some ((decimalDigits d.significand).drop 1)
  exponent := some (d.order - 1 < 0, decimalDigits (d.order - 1).natAbs)

private theorem text_scientificNumeral (negative : Bool) (d : Decimal) :
    (scientificNumeral negative d).text = Double.signed negative d.scientific := by
  simp only [Numeral.text, scientificNumeral, Decimal.scientific]
  congr 1
  split <;> simp [Numeral.fractionText, Numeral.exponentText]

private theorem isWellFormed_scientificNumeral (negative : Bool) {d : Decimal}
    (positive : 0 < d.significand) : (scientificNumeral negative d).IsWellFormed where
  whole := by
    obtain ⟨first, others, digits, nonzero⟩ := decimalDigits_eq_cons positive
    refine Or.inr ⟨first, [], ?_, nonzero, ?_⟩
    · simp [scientificNumeral, digits]
    · exact fun c hc => isDigit_of_mem_decimalDigits (List.mem_of_mem_take hc)
  fraction := by
    intro ds present
    simp only [scientificNumeral] at present
    split at present
    · cases present
    · cases present
      refine ⟨?_, fun c hc => isDigit_of_mem_decimalDigits (List.mem_of_mem_drop hc)⟩
      rw [ne_eq, List.drop_eq_nil_iff]
      assumption
  exponent := by
    rintro power ⟨⟩
    exact Numeral.isDigits_decimalDigits _

private theorem decimal_scientificNumeral (negative : Bool) (d : Decimal) :
    (scientificNumeral negative d).decimal = d := by
  have width : (decimalDigits d.significand).length = decimalWidth d.significand := rfl
  have positive := decimalWidth_pos d.significand
  have order : d.order = decimalWidth d.significand + d.exponent := rfl
  have fraction : (scientificNumeral negative d).fraction.getD [] =
      (decimalDigits d.significand).drop 1 := by
    simp only [scientificNumeral]
    split
    · rw [List.drop_eq_nil_of_le ‹_›]
      rfl
    · rfl
  have power : (scientificNumeral negative d).power = d.order - 1 := by
    simp only [scientificNumeral, Numeral.power, natOfDecimalDigits_decimalDigits]
    split
    · have below : d.order - 1 < 0 := of_decide_eq_true ‹_›
      omega
    · have above : ¬ d.order - 1 < 0 := of_decide_eq_false (Bool.eq_false_iff.mpr ‹_›)
      omega
  rw [Numeral.decimal, fraction, power, scientificNumeral, Decimal.ofDigits,
    List.take_append_drop, natOfDecimalDigits_decimalDigits, List.length_drop]
  obtain ⟨significand, exponent⟩ := d
  simp only [Decimal.mk.injEq, true_and] at *
  omega

/-! ### Numbers -/

/-- The text of a finite number denotes the shortest decimal of its magnitude. -/
private theorem exists_numeral_of_rank (negative : Bool) {rank : Nat}
    (finite : rank < Double.infinityRank) :
    ∃ n : Numeral, n.IsWellFormed ∧
      n.text = doubleText (.ranked negative rank (Nat.le_of_lt finite)) ∧
      n.number = .double n.double ∧ n.negative = negative ∧
      ∃ k ≤ ((Double.shortest .even rank).exponent + 1).toNat,
        n.decimal = (Double.shortest .even rank).padded k := by
  rw [doubleText, if_neg (Nat.ne_of_lt finite)]
  by_cases zero : rank = 0
  · subst zero
    exact ⟨⟨negative, ['0'], some ['0'], none⟩,
      Numeral.isWellFormed_fraction negative (Or.inl rfl) Numeral.isDigits_zero, rfl,
      Numeral.number_of_point (Or.inl rfl), rfl, 1, Nat.le_refl 1, rfl⟩
  · have significand :=
      Double.significand_shortest_pos .even (Nat.pos_of_ne_zero zero) finite
    rw [if_neg zero]
    generalize Double.shortest .even rank = d at significand
    by_cases short : -5 < d.order ∧ d.order ≤ 16
    · obtain ⟨⟨whole, fraction⟩, parts⟩ : ∃ p, d.positional = p := ⟨_, rfl⟩
      obtain ⟨isWhole, isDigits, k, le, value⟩ := spelledBy_positional significand parts
      refine ⟨⟨negative, whole, some (fractionOrZero fraction), none⟩,
        Numeral.isWellFormed_fraction negative isWhole isDigits, ?_,
        Numeral.number_of_point (Or.inl rfl), rfl, k, le, value⟩
      simp [Numeral.text, Numeral.fractionText, Numeral.exponentText, fractionOrZero, short, parts]
    · refine ⟨scientificNumeral negative d, isWellFormed_scientificNumeral negative significand,
        ?_, Numeral.number_of_point (Or.inr rfl), rfl, 0, Nat.zero_le _, ?_⟩
      · simp only [text_scientificNumeral, if_neg short]
      · simp [decimal_scientificNumeral, Decimal.padded]

/-- The number is read from its text as it was, if it is finite. Reading rounds twice, so this is
not so of every number. -/
def IsReadBack (x : Double) : Prop :=
  x.isFinite = true → readNumber (doubleText x) = .ok (.double x, [])

/-- A number of few digits is read back: with a zero behind them they have 53 bits, and the power of
ten is one of those that are numbers of 64 bits. -/
theorem isReadBack_of_shortest (negative : Bool) {rank : Nat} (le : rank ≤ Double.infinityRank)
    (digits : (Double.shortest .even rank).significand *
      10 ^ ((Double.shortest .even rank).exponent + 1).toNat < 2 * Double.binade)
    (near : -22 ≤ (Double.shortest .even rank).exponent) :
    IsReadBack (.ranked negative rank le) := by
  intro isFinite
  have finite : rank < Double.infinityRank := of_decide_eq_true isFinite
  obtain ⟨n, formed, text, number, rfl, k, more, decimal⟩ :=
    exists_numeral_of_rank negative finite
  have magnitude : (Double.shortest .even rank).toDouble false = .clamp false rank := by
    rcases Nat.eq_zero_or_pos rank with rfl | positive
    · rfl
    · exact Double.toDouble_shortest .even positive finite false
  have top : (Double.shortest .even rank).exponent ≤ 22 := by
    rcases Nat.eq_zero_or_pos rank with rfl | positive
    · exact Int.zero_le_ofNat 22
    · have some := Double.significand_shortest_pos .even positive finite
      have bound : 2 * Double.binade < 10 ^ 16 := by decide
      have power := Nat.lt_trans
        (Nat.lt_of_le_of_lt (Nat.le_mul_of_pos_left _ some) digits) bound
      have exponent := (Nat.pow_lt_pow_iff_right (by decide)).mp power
      omega
  generalize Double.shortest .even rank = d at *
  -- with the zeros that are written the significand still has 53 bits, so scaling rounds once
  have powers : 10 ^ k ≤ 10 ^ (d.exponent + 1).toNat := Nat.pow_le_pow_right (by decide) more
  have small : n.decimal.significand < 2 * Double.binade := by
    rw [decimal]
    exact Nat.lt_of_le_of_lt (Nat.mul_le_mul_left _ powers) digits
  have moved : n.decimal.exponent = d.exponent - k := by
    rw [decimal]
    rfl
  have exponent : n.decimal.exponent.natAbs ≤ 22 := by omega
  have taken := Numeral.taken_of_lt (Nat.lt_trans small (by decide))
  have double : n.double = .ranked n.negative rank le := by
    rw [Numeral.double, taken, Decimal.scaled_eq_toDouble small exponent, decimal,
      Decimal.toDouble_padded, magnitude, Double.clamp_of_le _ le]
    cases n.negative <;> rfl
  have read := Numeral.read_text .endInValue formed Numeral.ends_nil
  rw [List.append_nil, text] at read
  simp only [readNumber, read, bind, Except.bind, number, double, Number.toDouble, isFinite, if_true]
  rfl

/-- Counts are read back, with bits to spare for the zero behind the point. -/
theorem isReadBack_ofNat {n : Nat} (small : 20 * n < 2 * Double.binade) :
    IsReadBack (.ofNat n) := by
  have short : Double.IsShort n := .of_lt (by omega)
  obtain ⟨rank, finite, whole, kept⟩ := short.exists_rank
  rw [kept]
  rcases Nat.eq_zero_or_pos n with rfl | positive
  · rw [Nat.zero_mul] at whole
    have zero : rank = 0 := Nat.eq_zero_of_not_pos fun positive =>
      Nat.ne_of_gt (Double.units_pos positive) whole
    subst zero
    exact isReadBack_of_shortest false _ (by decide) (by decide)
  · have bound : 2 * Double.binade < 10 ^ 17 := by decide
    have width : decimalWidth n ≤ 17 := (decimalWidth_le_iff (by decide)).mpr (by omega)
    obtain ⟨noPoint, le⟩ := Double.shortest_whole_le whole positive .even width
    refine isReadBack_of_shortest false _ ?_ (by omega)
    rw [Int.toNat_add noPoint (by decide), Nat.pow_add, ← Nat.mul_assoc]
    change _ * 10 < _
    omega

/-- A number that a text can hold: a whole number of 64 bits where it is one, and finite and read
back otherwise. -/
def Number.IsWritable : Number → Prop
  | .natural n => n < 0x10000000000000000
  | .negative z => -0x8000000000000000 ≤ z ∧ z < 0
  | .double x => x.isFinite = true ∧ IsReadBack x

private theorem exists_numeral_of_double {x : Double} (finite : x.isFinite = true)
    (readBack : IsReadBack x) :
    ∃ n : Numeral, n.IsWellFormed ∧ n.text = doubleText x ∧ n.number = .double x := by
  cases x with
  | nan => cases finite
  | ranked negative rank le =>
    obtain ⟨n, formed, text, -⟩ := exists_numeral_of_rank negative (of_decide_eq_true finite)
    refine ⟨n, formed, text, ?_⟩
    have read := readBack finite
    have numeral := Numeral.read_text .endInValue formed Numeral.ends_nil
    rw [List.append_nil] at numeral
    rw [← text] at read
    simp only [readNumber, numeral, bind, Except.bind] at read
    split at read
    · exact congrArg Prod.fst (Except.ok.inj read)
    · cases read

theorem Number.exists_numeral {n : Number} (h : n.IsWritable) :
    ∃ m : Numeral, m.IsWellFormed ∧ m.text = n.text ∧ m.number = n := by
  have formed (negative : Bool) (m : Nat) :
      Numeral.IsWellFormed ⟨negative, decimalDigits m, none, none⟩ :=
    ⟨Numeral.isWhole_decimalDigits m, nofun, nofun⟩
  cases n with
  | natural m =>
    refine ⟨_, formed false m, ?_, Numeral.number_digits h⟩
    simp [Numeral.text, Numeral.fractionText, Numeral.exponentText, Number.text, Double.signed]
  | negative z =>
    obtain ⟨lower, upper⟩ := h
    refine ⟨_, formed true z.natAbs, ?_, ?_⟩
    · simp [Numeral.text, Numeral.fractionText, Numeral.exponentText, Number.text, Double.signed,
        upper]
    · rw [Numeral.number_negative_digits (by omega) (by omega)]
      congr 1
      omega
  | double x => exact exists_numeral_of_double h.1 h.2

private theorem Number.isFinite_toDouble {n : Number} (h : n.IsWritable) :
    n.toDouble.isFinite = true := by
  cases n with
  | natural m => exact Double.isFinite_ofRatio_whole false h
  | negative z => exact Double.isFinite_ofRatio_whole _ (by have := h.1; have := h.2; omega)
  | double x => exact h.1

/-- A writable number is read back from its text. -/
theorem readNumber_text {n : Number} {rest : List Char} (writable : n.IsWritable)
    (ends : Numeral.Ends rest) : readNumber (n.text ++ rest) = .ok (n, rest) := by
  obtain ⟨m, formed, text, number⟩ := Number.exists_numeral writable
  simp only [readNumber, ← text, Numeral.read_text _ formed ends, bind, Except.bind, number,
    Number.isFinite_toDouble writable, if_true]
  rfl

theorem doubleText_eq_null_iff (x : Double) :
    doubleText x = ['n', 'u', 'l', 'l'] ↔ x.isFinite = false := by
  cases x with
  | nan => exact iff_of_true rfl rfl
  | ranked negative rank le =>
    rcases Nat.lt_or_ge rank Double.infinityRank with finite | infinite
    · obtain ⟨n, formed, text, -⟩ := exists_numeral_of_rank negative finite
      obtain ⟨c, cs, spelled, first⟩ :=
        Numeral.exists_cons_spelled formed (Numeral.exponentText n.exponent)
      have isFinite : (Double.ranked negative rank le).isFinite = true := decide_eq_true finite
      refine iff_of_false ?_ (by rw [isFinite]; exact Bool.noConfusion)
      rw [← text, show n.text = c :: cs from spelled]
      rintro ⟨⟩
      -- no numeral begins with a letter
      exact absurd first (by decide)
    · have top : rank = Double.infinityRank := Nat.le_antisymm le infinite
      refine iff_of_true (by rw [doubleText, if_pos top]) ?_
      exact decide_eq_false (Nat.not_lt.mpr infinite)

end RequestFilter.Json
