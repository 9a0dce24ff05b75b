import Mathlib.Data.List.TakeDrop
import RequestFilter.Json.Lexeme
import RequestFilter.Proofs.Number.Digits

/-!
Numerals by the rules of the language: how they are spelled and written, and that reading gives them
back.

A numeral is read up to its end wherever the text after it does not go on as one. That proviso
holds at the end of a text and before every character that may follow a value.
-/

set_option autoImplicit false

namespace RequestFilter.Json

namespace Numeral

/-! ### Well-formed numerals and their texts -/

def IsDigits (cs : List Char) : Prop := cs ≠ [] ∧ ∀ c ∈ cs, c.isDigit = true

theorem isDigits_zero : IsDigits ['0'] := ⟨List.cons_ne_nil _ _, by simp⟩

/-- Digits that may stand before a point: a single zero, or digits that do not begin with a zero. -/
def IsWhole (cs : List Char) : Prop :=
  cs = ['0'] ∨ ∃ d ds, cs = d :: ds ∧ d ≠ '0' ∧ ∀ c ∈ cs, c.isDigit = true

/-- A numeral that follows the rules of the language. -/
structure IsWellFormed (n : Numeral) : Prop where
  whole : IsWhole n.whole
  fraction : ∀ ds ∈ n.fraction, IsDigits ds
  exponent : ∀ power ∈ n.exponent, IsDigits power.2

theorem isWellFormed_fraction (negative : Bool) {whole ds : List Char} (isWhole : IsWhole whole)
    (isDigits : IsDigits ds) : IsWellFormed ⟨negative, whole, some ds, none⟩ where
  whole := isWhole
  fraction := by
    rintro _ ⟨⟩
    exact isDigits
  exponent := by
    intro power absent
    cases absent

def Ends (rest : List Char) : Prop :=
  ∀ c ∈ rest.head?, c.isDigit = false ∧ c ≠ '.' ∧ c ≠ 'e' ∧ c ≠ 'E'

theorem ends_nil : Ends [] := nofun

def fractionText : Option (List Char) → List Char
  | none => []
  | some ds => '.' :: ds

def exponentText : Option (Bool × List Char) → List Char
  | none => []
  | some (negative, ds) => 'e' :: (if negative then '-' else '+') :: ds

/-- The spellings of an exponent. Its letter is small or large, and a plus sign may be left out. -/
inductive SpellsExponent : Option (Bool × List Char) → List Char → Prop
  | none : SpellsExponent none []
  | unsigned {letter : Char} (h : letter = 'e' ∨ letter = 'E') (ds : List Char) :
      SpellsExponent (some (false, ds)) (letter :: ds)
  | signed {letter : Char} (h : letter = 'e' ∨ letter = 'E') (negative : Bool) (ds : List Char) :
      SpellsExponent (some (negative, ds)) (letter :: (if negative then '-' else '+') :: ds)

theorem spellsExponent_exponentText (exponent : Option (Bool × List Char)) :
    SpellsExponent exponent (exponentText exponent) := by
  cases exponent with
  | none => exact .none
  | some power => exact .signed (Or.inl rfl) power.1 power.2

def spelled (n : Numeral) (exponent : List Char) : List Char :=
  Double.signed n.negative (n.whole ++ fractionText n.fraction ++ exponent)

def text (n : Numeral) : List Char :=
  Double.signed n.negative (n.whole ++ fractionText n.fraction ++ exponentText n.exponent)

/-! ### Reading a numeral back -/

private theorem Ends.not_isDigit {rest : List Char} (h : Ends rest) :
    ∀ c ∈ rest.head?, c.isDigit = false :=
  fun c first => (h c first).1

private theorem digits_append {ds rest : List Char} (isDigits : ∀ c ∈ ds, c.isDigit = true)
    (ends : ∀ c ∈ rest.head?, c.isDigit = false) : digits (ds ++ rest) = (ds, rest) := by
  rw [digits, List.span_eq_takeWhile_dropWhile, List.takeWhile_append_of_pos isDigits,
    List.dropWhile_append_of_pos isDigits]
  cases rest with
  | nil => simp
  | cons c rest => simp [ends c rfl]

private theorem IsWhole.ne_nil {cs : List Char} (h : IsWhole cs) : cs ≠ [] := by
  rcases h with rfl | ⟨d, ds, rfl, -⟩ <;> exact List.cons_ne_nil _ _

theorem IsWhole.isDigit {cs : List Char} (h : IsWhole cs) : ∀ c ∈ cs, c.isDigit = true := by
  rcases h with rfl | ⟨d, ds, rfl, -, isDigits⟩
  · simp
  · exact isDigits

private theorem readWhole_append (atEnd : Cause) {cs rest : List Char} (whole : IsWhole cs)
    (ends : ∀ c ∈ rest.head?, c.isDigit = false) :
    readWhole atEnd (cs ++ rest) = .ok (cs, rest) := by
  rcases whole with rfl | ⟨d, ds, rfl, nonzero, isDigits⟩
  · cases rest with
    | nil => rfl
    | cons c rest => simp [readWhole, ends c rfl]
  · have all := digits_append isDigits ends
    rw [List.cons_append] at all ⊢
    rw [readWhole.eq_def]
    split
    · rename_i zero
      exact absurd (List.cons.inj zero).1 nonzero
    · rename_i same
      obtain ⟨rfl, rfl⟩ := List.cons.inj same
      rw [if_pos (isDigits d List.mem_cons_self), all]
    · rename_i empty
      exact absurd empty (List.cons_ne_nil _ _)

private theorem readFraction_append (atEnd : Cause) {fraction : Option (List Char)}
    {rest : List Char} (isDigits : ∀ ds ∈ fraction, IsDigits ds)
    (ends : ∀ c ∈ rest.head?, c.isDigit = false ∧ c ≠ '.') :
    readFraction atEnd (fractionText fraction ++ rest) = .ok (fraction, rest) := by
  cases fraction with
  | none =>
    cases rest with
    | nil => rfl
    | cons c rest => simp [fractionText, readFraction, (ends c rfl).2]
  | some ds =>
    obtain ⟨nonempty, all⟩ := isDigits ds rfl
    have whole := digits_append all fun c first => (ends c first).1
    obtain ⟨d, ds, rfl⟩ := List.exists_cons_of_ne_nil nonempty
    simp only [fractionText, List.cons_append, readFraction] at whole ⊢
    rw [whole]

private theorem readSign_digits {ds : List Char} (isDigits : IsDigits ds) (rest : List Char) :
    readSign (ds ++ rest) = (false, ds ++ rest) := by
  obtain ⟨d, ds, rfl⟩ := List.exists_cons_of_ne_nil isDigits.1
  have digit := isDigits.2 d List.mem_cons_self
  rw [List.cons_append, readSign.eq_def]
  split
  · rename_i sign
    rw [(List.cons.inj sign).1] at digit
    exact absurd digit (by decide)
  · rename_i sign
    rw [(List.cons.inj sign).1] at digit
    exact absurd digit (by decide)
  · rfl

private theorem readExponent_letter (atEnd : Cause) {letter : Char}
    (h : letter = 'e' ∨ letter = 'E') {negative : Bool} {cs ds rest : List Char}
    (isDigits : IsDigits ds) (ends : Ends rest) (sign : readSign cs = (negative, ds ++ rest)) :
    readExponent atEnd (letter :: cs) = .ok (some (negative, ds), rest) := by
  have whole := digits_append isDigits.2 ends.not_isDigit
  obtain ⟨d, ds, rfl⟩ := List.exists_cons_of_ne_nil isDigits.1
  simp only [readExponent, if_pos h, sign, whole]

private theorem readExponent_append (atEnd : Cause) {exponent : Option (Bool × List Char)}
    {text rest : List Char} (spells : SpellsExponent exponent text)
    (isDigits : ∀ power ∈ exponent, IsDigits power.2) (ends : Ends rest) :
    readExponent atEnd (text ++ rest) = .ok (exponent, rest) := by
  cases spells with
  | none =>
    cases rest with
    | nil => rfl
    | cons c rest => simp [readExponent, ends c rfl]
  | unsigned letter ds =>
    have digits := isDigits _ rfl
    exact readExponent_letter atEnd letter digits ends (readSign_digits digits rest)
  | signed letter negative ds =>
    refine readExponent_letter atEnd letter (isDigits _ rfl) ends ?_
    cases negative <;> rfl

private theorem SpellsExponent.head? {exponent : Option (Bool × List Char)} {text : List Char}
    (spells : SpellsExponent exponent text) :
    ∀ c ∈ text.head?, c.isDigit = false ∧ c ≠ '.' := by
  cases spells with
  | none => exact nofun
  | unsigned letter ds =>
    rintro c ⟨⟩
    rcases letter with rfl | rfl <;> decide
  | signed letter negative ds =>
    rintro c ⟨⟩
    rcases letter with rfl | rfl <;> decide

/-- A well-formed numeral is read from any of its spellings, up to the text after it. -/
theorem read_spelled (atEnd : Cause) {n : Numeral} {exponent rest : List Char}
    (formed : n.IsWellFormed) (spells : SpellsExponent n.exponent exponent) (ends : Ends rest) :
    read atEnd (n.spelled exponent ++ rest) = .ok (n, rest) := by
  obtain ⟨negative, whole, fraction, power⟩ := n
  have third := readExponent_append atEnd spells formed.exponent ends
  have afterFraction : ∀ c ∈ (exponent ++ rest).head?, c.isDigit = false ∧ c ≠ '.' := by
    intro c first
    cases exponent with
    | nil => exact ⟨(ends c first).1, (ends c first).2.1⟩
    | cons d ds => exact spells.head? c first
  have second := readFraction_append atEnd formed.fraction afterFraction
  have first :
      readWhole atEnd (whole ++ (fractionText fraction ++ (exponent ++ rest))) =
        .ok (whole, fractionText fraction ++ (exponent ++ rest)) := by
    apply readWhole_append atEnd formed.whole
    intro c first
    cases fraction with
    | none => exact (afterFraction c first).1
    | some ds => cases first; decide
  have noSign : ∀ cs, whole ++ (fractionText fraction ++ (exponent ++ rest)) ≠ '-' :: cs := by
    obtain ⟨d, ds, rfl⟩ := List.exists_cons_of_ne_nil formed.whole.ne_nil
    intro cs sign
    have digit := formed.whole.isDigit d List.mem_cons_self
    rw [(List.cons.inj sign).1] at digit
    exact absurd digit (by decide)
  cases negative with
  | true =>
    simp only [spelled, Double.signed, if_true, List.cons_append, List.append_assoc, read, first,
      bind, Except.bind, second, third]
    rfl
  | false =>
    -- `noSign` decides that the first character is no sign
    simp only [spelled, Double.signed, Bool.false_eq_true, if_false, List.append_assoc, read, first,
      bind, Except.bind, second, third]
    rfl

theorem exists_cons_spelled {n : Numeral} (formed : n.IsWellFormed) (exponent : List Char) :
    ∃ c cs, n.spelled exponent = c :: cs ∧ (c = '-' ∨ c.isDigit = true) := by
  obtain ⟨negative, whole, fraction, power⟩ := n
  cases negative with
  | true => exact ⟨'-', _, rfl, Or.inl rfl⟩
  | false =>
    obtain ⟨d, ds, rfl⟩ := List.exists_cons_of_ne_nil formed.whole.ne_nil
    exact ⟨d, _, rfl, Or.inr (formed.whole.isDigit d List.mem_cons_self)⟩

theorem read_text (atEnd : Cause) {n : Numeral} {rest : List Char} (formed : n.IsWellFormed)
    (ends : Ends rest) : read atEnd (n.text ++ rest) = .ok (n, rest) :=
  read_spelled atEnd formed (spellsExponent_exponentText n.exponent) ends

/-! ### The number of a numeral -/

/-- The magnitude that a numeral denotes. -/
def decimal (n : Numeral) : Decimal := .ofDigits n.whole (n.fraction.getD []) n.power

theorem number_digits {n : Nat} (h : n < 0x10000000000000000) :
    number ⟨false, decimalDigits n, none, none⟩ = .natural n := by
  simp [number, h]

theorem number_negative_digits {n : Nat} (positive : 0 < n) (le : n ≤ 0x8000000000000000) :
    number ⟨true, decimalDigits n, none, none⟩ = .negative (-n) := by
  simp [number, positive, le]

theorem number_of_point {n : Numeral} (h : n.fraction.isSome ∨ n.exponent.isSome) :
    n.number = .double n.double := by
  unfold number
  rw [if_neg]
  rintro ⟨noFraction, noExponent⟩
  rcases h with some | some
  · rw [Option.isNone_iff_eq_none.mp noFraction] at some
    cases some
  · rw [Option.isNone_iff_eq_none.mp noExponent] at some
    cases some

theorem isWhole_decimalDigits (n : Nat) : IsWhole (decimalDigits n) := by
  rcases Nat.eq_zero_or_pos n with rfl | positive
  · exact Or.inl rfl
  · obtain ⟨d, ds, digits, nonzero⟩ := decimalDigits_eq_cons positive
    exact Or.inr ⟨d, ds, digits, nonzero, fun c => isDigit_of_mem_decimalDigits⟩

theorem isDigits_decimalDigits (n : Nat) : IsDigits (decimalDigits n) :=
  ⟨decimalDigits_ne_nil n, fun _ => isDigit_of_mem_decimalDigits⟩

end Numeral

end RequestFilter.Json
