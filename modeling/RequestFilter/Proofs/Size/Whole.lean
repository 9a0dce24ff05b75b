import RequestFilter.Proofs.Number.Integral
import RequestFilter.Proofs.Number.Whole
import RequestFilter.Proofs.Size.Numeral
import RequestFilter.Query.Parser

/-!
Whole numbers as counts of bytes.

A whole number below `2 ^ 53` may be typed with decimal digits or as a literal of another radix,
with zeros in front and letters in either case. All its spellings are read as the number itself, and
with a unit behind them as the exact multiple.
-/

set_option autoImplicit false

namespace RequestFilter

namespace Size

/-- The spellings of a whole number: decimal digits, or a literal with the start of its radix. -/
inductive SpellsWhole : List Char → Nat → Prop
  | decimal {cs : List Char} {n : Nat} (spelled : Spells 10 cs n) : SpellsWhole cs n
  | literal {mark : Char} {radix n : Nat} {digits : List Char} (marked : Marks mark radix)
      (spelled : Spells radix digits n) : SpellsWhole ('0' :: mark :: digits) n

def units : List (String × Nat) := [("", 1), ("k", 1024), ("m", 1024 * 1024)]

/-! ### Numbers without a unit -/

private theorem literal?_of_digits {cs : List Char} {n : Nat} (spelled : Spells 10 cs n) :
    literal? cs = none := by
  rw [Option.eq_none_iff_forall_ne_some]
  intro m read
  obtain ⟨mark, radix, digits, rfl, marked, -, -⟩ := (literal?_eq_some_iff cs m).mp read
  obtain ⟨-, isDigits, -⟩ := (spells_ten_iff _ n).mp spelled
  have digit := isDigits mark (by simp)
  rw [marked.letter.1] at digit
  cases digit

private theorem decimal?_of_digits {cs : List Char} {n : Nat} (spelled : Spells 10 cs n) :
    decimal? cs = some (false, ⟨n, 0⟩) := by
  have numeral := (decimal?_eq_some_iff _ _ _).mpr (.mk .none (.whole spelled) .none)
  rwa [List.nil_append, List.append_nil] at numeral

theorem toDouble_whole (n : Nat) : Decimal.toDouble false ⟨n, 0⟩ = .ofNat n :=
  Decimal.toDouble_of_value_eq (Decimal.value_natCast n) false

theorem number?_digits {cs : List Char} {n : Nat} (spelled : Spells 10 cs n) :
    number? cs = if n < Double.overflow then some (.ofNat n) else none := by
  have finite : (Double.ofNat n).isFinite = true ↔ n < Double.overflow := by
    rw [Double.ofNat, Double.isFinite_ofRatio_iff false n Nat.one_pos, Nat.one_mul]
  rw [number?.eq_def, Text.trim_solid (spelled.solid (by decide))]
  split
  · exact absurd rfl spelled.ne_nil
  · simp only [literal?_of_digits spelled, decimal?_of_digits spelled, Option.map_some,
      toDouble_whole, Option.filter_some, finite]

theorem decimal?_of_mark {mark : Char} {radix : Nat} (marked : Marks mark radix)
    (digits : List Char) : decimal? ('0' :: mark :: digits) = none := by
  cases marked with
  | hexadecimal letter | octal letter | binary letter => rcases letter with rfl | rfl <;> rfl

theorem number?_literal {mark : Char} {radix n : Nat} {digits : List Char}
    (marked : Marks mark radix) (spelled : Spells radix digits n) :
    number? ('0' :: mark :: digits) = if n < 2 ^ 64 then some (.ofNat n) else none := by
  have solid : ∀ c ∈ '0' :: mark :: digits, Text.isBlank c = false :=
    List.forall_mem_cons.mpr ⟨by decide,
      List.forall_mem_cons.mpr ⟨marked.letter.2, spelled.solid marked.bounds.2⟩⟩
  have read : literal? ('0' :: mark :: digits) = if n < 2 ^ 64 then some n else none := by
    simp only [literal?, (radix?_eq_some_iff mark radix).mpr marked, Option.bind_some,
      (natOfDigits?_eq_some_iff marked.bounds.2).mpr spelled, Option.filter_some,
      decide_eq_true_eq]
    rfl
  rw [number?.eq_def, Text.trim_solid solid]
  dsimp only
  rw [read]
  by_cases bound : n < 2 ^ 64
  · simp only [if_pos bound]
  · simp only [if_neg bound, decimal?_of_mark marked, Option.map_none, Option.filter_none]

private theorem SpellsWhole.ne_nil {cs : List Char} {n : Nat} (spelled : SpellsWhole cs n) : cs ≠ []
    := by
  cases spelled with
  | decimal digits => exact digits.ne_nil
  | literal => exact List.cons_ne_nil _ _

private theorem number?_whole {cs : List Char} {n : Nat} (spelled : SpellsWhole cs n)
    (bound : n < 2 ^ 64) :
    number? cs = some (.ofNat n) := by
  cases spelled with
  | decimal digits =>
    have finite : n < Double.overflow := Nat.lt_of_lt_of_le bound (by decide +kernel)
    rw [number?_digits digits, if_pos finite]
  | literal marked digits => rw [number?_literal marked digits, if_pos bound]

/-! ### Numbers with a unit -/

theorem SpellsWhole.last {cs : List Char} {n : Nat} (spelled : SpellsWhole cs n) :
    ∀ c ∈ cs.getLast?, c ≠ 'k' ∧ c ≠ 'm' := by
  have digit {radix : Nat} (bound : radix ≤ 16) {c : Char} (shown : ∃ d, ShowsDigit radix c d) :
      c ≠ 'k' ∧ c ≠ 'm' := by
    obtain ⟨d, below, shown⟩ := shown
    have table : ∀ d < 16, 'k' ≠ Nat.digitChar d ∧ 'm' ≠ Nat.digitChar d := by decide
    have other := table d (Nat.lt_of_lt_of_le below bound)
    constructor
    · rintro rfl
      exact other.1 shown
    · rintro rfl
      exact other.2 shown
  intro c last
  cases spelled with
  | decimal digits =>
    exact digit (by decide) (digits.shows c (List.mem_of_getLast? last))
  | @literal mark radix n digits marked spelled =>
    rw [List.getLast?_cons_cons, List.getLast?_cons_of_ne_nil spelled.ne_nil] at last
    exact digit marked.bounds.2 (spelled.shows c (List.mem_of_getLast? last))

private theorem mem_units_iff {letter : String} {size : Nat} :
    (letter, size) ∈ units ↔
      letter = "" ∧ size = 1 ∨ letter = "k" ∧ size = 1024 ∨ letter = "m" ∧ size = 1024 * 1024 := by
  simp [units]

theorem splitUnit_append_unit {letter : String} {size : Nat} (known : (letter, size) ∈ units)
    {body : List Char} (bare : letter = "" → ∀ c ∈ body.getLast?, c ≠ 'k' ∧ c ≠ 'm') :
    splitUnit (body ++ letter.toList) = (body, size) := by
  rcases mem_units_iff.mp known with ⟨rfl, rfl⟩ | ⟨rfl, rfl⟩ | ⟨rfl, rfl⟩
  · rw [String.toList_empty, List.append_nil]
    exact splitUnit_bare (bare rfl)
  · simp [splitUnit]
  · simp [splitUnit]

private theorem splitUnit_of_mem_units {cs : List Char} {n : Nat} (spelled : SpellsWhole cs n)
    {letter : String} {size : Nat} (known : (letter, size) ∈ units) :
    splitUnit (cs ++ letter.toList) = (cs, size) :=
  splitUnit_append_unit known fun _ => spelled.last

theorem exists_two_pow_of_mem_units {letter : String} {size : Nat}
    (known : (letter, size) ∈ units) : ∃ e ≤ 20, size = 2 ^ e := by
  rcases mem_units_iff.mp known with ⟨-, rfl⟩ | ⟨-, rfl⟩ | ⟨-, rfl⟩
  · exact ⟨0, by decide, rfl⟩
  · exact ⟨10, by decide, rfl⟩
  · exact ⟨20, by decide, rfl⟩

end Size

/-- Every spelling of a whole number below `2 ^ 53` is read as the number itself by every flag that
counts bytes, and with a unit behind it as the exact multiple. -/
theorem valueOf_whole {f : Flag} (sized : f.isSize = true) {n : Nat} (small : n < 2 ^ 53)
    {text : String} (spelled : Size.SpellsWhole text.toList n) :
    ∀ unit ∈ Size.units,
      f.valueOf (text ++ unit.1) = .size (some (.ofNat (n * unit.2))) ∧
        (Double.ofNat (n * unit.2)).toInt? = some ((n * unit.2 : Nat) : Int) := by
  rintro ⟨letter, size⟩ known
  obtain ⟨e, bound, rfl⟩ := Size.exists_two_pow_of_mem_units known
  have short : Double.IsShort n := ⟨n, 0, by simp, small, by decide⟩
  have unit : Double.IsShort (2 ^ e) := ⟨1, e, by simp, by decide, by omega⟩
  have multiple : Double.IsShort (n * 2 ^ e) := ⟨n, e, rfl, small, by omega⟩
  have filled : (text ++ letter).isEmpty = false := by
    rw [Bool.eq_false_iff, ne_eq, String.isEmpty_iff, ← String.toList_eq_nil_iff,
      String.toList_append]
    exact List.append_ne_nil_of_left_ne_nil spelled.ne_nil _
  have read : Size.ofText? (text ++ letter) = some (.ofNat (n * 2 ^ e)) := by
    have number := Size.number?_whole spelled (Nat.lt_trans small (by decide))
    have cut := Size.splitUnit_of_mem_units spelled known
    simp only [Size.ofText?, String.toList_append, cut, number, Option.map_some,
      short.ofNat_mul unit]
  refine ⟨?_, multiple.toInt?_ofNat⟩
  rw [Flag.valueOf, filled, if_neg Bool.false_ne_true, if_pos sized, read]

/-- The largest of these numbers, as a literal with zeros in front and letters of both cases. -/
theorem valueOf_whole_applied :
    let n := 2 ^ 53 - 1
    Flag.isSize .largerThan = true ∧ n < 2 ^ 53 ∧
      Size.SpellsWhole "0X001fFFFFFFFFFFFF".toList n ∧
      Flag.valueOf .largerThan ("0X001fFFFFFFFFFFFF" ++ "m") =
        .size (some (.ofNat (n * (1024 * 1024)))) ∧
      (Double.ofNat (n * (1024 * 1024))).toInt? = some ((n * (1024 * 1024) : Nat) : Int) := by
  intro n
  have small : n < 2 ^ 53 := by decide
  have digits : Spells 16 "001fFFFFFFFFFFFF".toList n :=
    (spells_iff (by decide) (by decide) _ n).mpr ⟨2, by decide +kernel⟩
  have spelled : Size.SpellsWhole "0X001fFFFFFFFFFFFF".toList n :=
    .literal (.hexadecimal (Or.inr rfl)) digits
  have known : ("m", 1024 * 1024) ∈ Size.units := by simp [Size.units]
  have multiple := valueOf_whole (f := .largerThan) rfl small spelled ("m", 1024 * 1024) known
  exact ⟨rfl, small, spelled, multiple⟩

end RequestFilter
