import RequestFilter.Proofs.Number.Overflow
import RequestFilter.Proofs.Number.Spelled
import RequestFilter.Proofs.Text.Run
import RequestFilter.Proofs.Text.Words
import RequestFilter.Query.Size

/-!
The texts that are read as counts of bytes.

A count is a number with a unit of one letter or none, and blanks around the number. The number is
left out, a whole number of 64 bits in a radix that is given by its start, or a decimal numeral that
is not rounded to infinity. Reading accepts exactly these texts.
-/

set_option autoImplicit false

namespace RequestFilter.Size

open Text (IsPadded EndsRun)

/-! ### The grammar -/

/-- The letter after a zero that stands for a radix, in either case. -/
inductive Marks : Char → Nat → Prop
  | hexadecimal {c : Char} (letter : c = 'x' ∨ c = 'X') : Marks c 16
  | octal {c : Char} (letter : c = 'o' ∨ c = 'O') : Marks c 8
  | binary {c : Char} (letter : c = 'b' ∨ c = 'B') : Marks c 2

inductive SpellsSign : List Char → Bool → Prop
  | none : SpellsSign [] false
  | plus : SpellsSign ['+'] false
  | minus : SpellsSign ['-'] true

inductive SpellsPower : List Char → Int → Prop
  | none : SpellsPower [] 0
  | some {letter : Char} {sign digits : List Char} {negative : Bool} {n : Nat}
      (exponent : letter = 'e' ∨ letter = 'E') (signed : SpellsSign sign negative)
      (spelled : Spells 10 digits n) :
      SpellsPower (letter :: (sign ++ digits)) (if negative then -n else n)

/-- The digits of a decimal, their number and how many of them stand behind the point. There need
not be a point, or digits on both its sides. -/
inductive SpellsDigits : List Char → Nat → Nat → Prop
  | whole {digits : List Char} {n : Nat} (spelled : Spells 10 digits n) : SpellsDigits digits n 0
  | point {whole fraction : List Char} {n : Nat} (spelled : Spells 10 (whole ++ fraction) n) :
      SpellsDigits (whole ++ '.' :: fraction) n fraction.length

/-- A decimal numeral: a sign, digits and a power of ten. -/
inductive SpellsDecimal : List Char → Bool → Decimal → Prop
  | mk {sign digits power : List Char} {negative : Bool} {n places : Nat} {p : Int}
      (signed : SpellsSign sign negative) (spelled : SpellsDigits digits n places)
      (raised : SpellsPower power p) :
      SpellsDecimal (sign ++ (digits ++ power)) negative ⟨n, p - places⟩

/-- What may stand for the number in a count of bytes. -/
inductive IsNumber : List Char → Prop
  | nothing : IsNumber []
  | literal {mark : Char} {radix n : Nat} {digits : List Char} (marked : Marks mark radix)
      (spelled : Spells radix digits n) (bound : n < 2 ^ 64) : IsNumber ('0' :: mark :: digits)
  | decimal {cs : List Char} {negative : Bool} {d : Decimal}
      (spelled : SpellsDecimal cs negative d) (bound : d.value < Double.overflow) : IsNumber cs

/-- A text of a number that stands between blanks, with one letter for the unit behind them or
none. -/
inductive Measures (number : List Char) : List Char → Prop
  | unit {body : List Char} {letter : Char} (known : letter = 'k' ∨ letter = 'm')
      (padded : IsPadded number body) : Measures number (body ++ [letter])
  | bare {body : List Char} (none : ∀ c ∈ body.getLast?, c ≠ 'k' ∧ c ≠ 'm')
      (padded : IsPadded number body) : Measures number body

/-! ### Literals -/

theorem radix?_eq_some_iff (c : Char) (radix : Nat) : radix? c = some radix ↔ Marks c radix := by
  have x : c.toLower = 'x' ↔ c = 'x' ∨ c = 'X' :=
    Text.toLower_eq_letter_iff (by decide) (by decide) c
  have o : c.toLower = 'o' ↔ c = 'o' ∨ c = 'O' :=
    Text.toLower_eq_letter_iff (by decide) (by decide) c
  have b : c.toLower = 'b' ↔ c = 'b' ∨ c = 'B' :=
    Text.toLower_eq_letter_iff (by decide) (by decide) c
  constructor
  · intro read
    unfold radix? at read
    split at read
    · rename_i mark
      cases read
      exact .hexadecimal (x.mp mark)
    · rename_i mark
      cases read
      exact .octal (o.mp mark)
    · rename_i mark
      cases read
      exact .binary (b.mp mark)
    · cases read
  · intro marked
    cases marked with
    | hexadecimal mark => simp [radix?, x.mpr mark]
    | octal mark => simp [radix?, o.mpr mark]
    | binary mark => simp [radix?, b.mpr mark]

theorem Marks.bounds {mark : Char} {radix : Nat} (marked : Marks mark radix) :
    2 ≤ radix ∧ radix ≤ 16 := by
  cases marked <;> decide

theorem Marks.letter {mark : Char} {radix : Nat} (marked : Marks mark radix) :
    mark.isDigit = false ∧ Text.isBlank mark = false := by
  cases marked with
  | hexadecimal letter | octal letter | binary letter => rcases letter with rfl | rfl <;> decide

theorem literal?_eq_some_iff (cs : List Char) (n : Nat) :
    literal? cs = some n ↔
      ∃ mark radix digits, cs = '0' :: mark :: digits ∧ Marks mark radix ∧
        Spells radix digits n ∧ n < 2 ^ 64 := by
  have limit : (0x10000000000000000 : Nat) = 2 ^ 64 := by decide
  constructor
  · intro read
    unfold literal? at read
    split at read
    · rename_i mark digits
      obtain ⟨radix, marked, rest⟩ := Option.bind_eq_some_iff.mp read
      obtain ⟨value, bound⟩ := Option.filter_eq_some_iff.mp rest
      rw [radix?_eq_some_iff] at marked
      rw [natOfDigits?_eq_some_iff marked.bounds.2] at value
      exact ⟨mark, radix, digits, rfl, marked, value, by simpa [limit] using bound⟩
    · cases read
  · rintro ⟨mark, radix, digits, rfl, marked, spelled, bound⟩
    have value := (natOfDigits?_eq_some_iff marked.bounds.2).mpr spelled
    simp only [literal?, (radix?_eq_some_iff mark radix).mpr marked, Option.bind_some, value, limit]
    simpa using bound

/-! ### Decimal numerals -/

private theorem exists_sign (cs : List Char) :
    ∃ sign negative body, cs = sign ++ body ∧ SpellsSign sign negative ∧
      splitSign cs = (negative, body) := by
  unfold splitSign
  split
  · exact ⟨['-'], true, _, rfl, .minus, rfl⟩
  · exact ⟨['+'], false, _, rfl, .plus, rfl⟩
  · exact ⟨[], false, _, rfl, .none, rfl⟩

private theorem splitSign_append {sign body : List Char} {negative : Bool}
    (signed : SpellsSign sign negative) (plain : ∀ c ∈ body.head?, c ≠ '-' ∧ c ≠ '+') :
    splitSign (sign ++ body) = (negative, body) := by
  cases signed with
  | plus => rfl
  | minus => rfl
  | none =>
    cases body with
    | nil => rfl
    | cons c cs =>
      have other := plain c rfl
      simp [splitSign, other]

private theorem not_sign_of_isDigit {c : Char} (digit : c.isDigit = true) : c ≠ '-' ∧ c ≠ '+' := by
  constructor
  all_goals
    rintro rfl
    exact absurd digit (by decide)

private theorem power?_eq_some_iff (cs : List Char) (p : Int) :
    power? cs = some p ↔ SpellsPower cs p := by
  constructor
  · intro read
    cases cs with
    | nil =>
      cases read
      exact .none
    | cons letter cs =>
      obtain ⟨sign, negative, digits, rfl, signed, cut⟩ := exists_sign cs
      simp only [power?, cut, Option.ite_none_right_eq_some, Option.ite_none_left_eq_some,
        Option.some.injEq, not_or, List.isEmpty_iff, Bool.not_eq_true', Bool.not_eq_false,
        List.all_eq_true] at read
      obtain ⟨exponent, ⟨some, isDigits⟩, rfl⟩ := read
      exact .some exponent signed ((spells_ten_iff digits _).mpr ⟨some, isDigits, rfl⟩)
  · intro spelled
    cases spelled with
    | none => rfl
    | @some letter sign digits negative n exponent signed spelled =>
      obtain ⟨some, isDigits, rfl⟩ := (spells_ten_iff digits n).mp spelled
      have cut := splitSign_append signed fun c first =>
        not_sign_of_isDigit (isDigits c (List.mem_of_mem_head? first))
      simp only [power?, cut, exponent, if_true]
      rw [if_neg]
      rintro (empty | other)
      · exact some (List.isEmpty_iff.mp empty)
      · simp only [List.all_eq_true.mpr isDigits] at other
        cases other

private theorem SpellsPower.head? {power : List Char} {p : Int} (raised : SpellsPower power p) :
    ∀ c ∈ power.head?, c.isDigit = false ∧ c ≠ '.' := by
  cases raised with
  | none => exact nofun
  | some exponent =>
    rintro c ⟨⟩
    rcases exponent with rfl | rfl <;> decide

/-- A text without its sign is a run of digits, the digits after a point and what is left. -/
private theorem exists_fraction (body : List Char) :
    ∃ whole point fraction rest, body = whole ++ (point ++ rest) ∧
      (point = [] ∧ fraction = [] ∨ point = '.' :: fraction) ∧
      (∀ c ∈ whole ++ fraction, c.isDigit = true) ∧
      body.span Char.isDigit = (whole, point ++ rest) ∧
      splitFraction (point ++ rest) = (fraction, rest) := by
  obtain ⟨whole, tail, rfl, wholeDigits, ended⟩ := Text.exists_run Char.isDigit body
  have first := Text.span_append_of_endsRun wholeDigits ended
  by_cases point : ∃ after, tail = '.' :: after
  · obtain ⟨after, rfl⟩ := point
    obtain ⟨fraction, rest, rfl, digits, stop⟩ := Text.exists_run Char.isDigit after
    refine ⟨whole, '.' :: fraction, fraction, rest, rfl, Or.inr rfl, ?_, first,
      Text.span_append_of_endsRun digits stop⟩
    exact List.forall_mem_append.mpr ⟨wholeDigits, digits⟩
  · refine ⟨whole, [], [], tail, rfl, Or.inl ⟨rfl, rfl⟩, by simpa using wholeDigits, first, ?_⟩
    rw [List.nil_append, splitFraction.eq_def]
    split
    · exact absurd ⟨_, rfl⟩ point
    · rfl

private theorem SpellsDigits.cut {digits power : List Char} {n places : Nat}
    (spelled : SpellsDigits digits n places)
    (ended : ∀ c ∈ power.head?, c.isDigit = false ∧ c ≠ '.') :
    ∃ whole fraction rest, (digits ++ power).span Char.isDigit = (whole, rest) ∧
      splitFraction rest = (fraction, power) ∧ whole ++ fraction ≠ [] ∧
      natOfDecimalDigits (whole ++ fraction) = n ∧ fraction.length = places := by
  have stop : EndsRun Char.isDigit power := fun c first => (ended c first).1
  cases spelled with
  | whole spelled =>
    obtain ⟨some, isDigits, value⟩ := (spells_ten_iff digits n).mp spelled
    have noPoint : splitFraction power = ([], power) := by
      cases power with
      | nil => rfl
      | cons c cs => simp [splitFraction, (ended c rfl).2]
    have first := Text.span_append_of_endsRun isDigits stop
    exact ⟨digits, [], power, first, noPoint, by simpa using some,
      by rw [List.append_nil, value], rfl⟩
  | @point whole fraction n spelled =>
    obtain ⟨some, isDigits, value⟩ := (spells_ten_iff _ n).mp spelled
    obtain ⟨wholeDigits, fractionDigits⟩ := List.forall_mem_append.mp isDigits
    have dot : EndsRun Char.isDigit ('.' :: (fraction ++ power)) :=
      Text.endsRun_cons.mpr (by decide)
    have first := Text.span_append_of_endsRun wholeDigits dot
    have second := Text.span_append_of_endsRun fractionDigits stop
    rw [List.append_assoc, List.cons_append]
    exact ⟨whole, fraction, _, first, second, some, value, rfl⟩

private theorem SpellsDigits.plain {digits : List Char} {n places : Nat}
    (spelled : SpellsDigits digits n places) (rest : List Char) :
    ∀ c ∈ (digits ++ rest).head?, c ≠ '-' ∧ c ≠ '+' := by
  cases spelled with
  | whole spelled =>
    obtain ⟨some, isDigits, -⟩ := (spells_ten_iff digits n).mp spelled
    obtain ⟨c, cs, rfl⟩ := List.exists_cons_of_ne_nil some
    rintro _ ⟨⟩
    exact not_sign_of_isDigit (isDigits c List.mem_cons_self)
  | @point whole fraction n spelled =>
    obtain ⟨-, isDigits, -⟩ := (spells_ten_iff _ n).mp spelled
    cases whole with
    | nil =>
      rintro _ ⟨⟩
      decide
    | cons c cs =>
      rintro _ ⟨⟩
      exact not_sign_of_isDigit (isDigits c List.mem_cons_self)

theorem decimal?_eq_some_iff (cs : List Char) (negative : Bool) (d : Decimal) :
    decimal? cs = some (negative, d) ↔ SpellsDecimal cs negative d := by
  constructor
  · intro read
    obtain ⟨sign, negative', body, rfl, signed, signCut⟩ := exists_sign cs
    obtain ⟨whole, point, fraction, rest, rfl, pointed, isDigits, digitsCut, pointCut⟩ :=
      exists_fraction body
    simp only [decimal?, signCut, digitsCut, pointCut, Option.ite_none_left_eq_some, not_and,
      List.isEmpty_iff, Option.map_eq_some_iff, Prod.mk.injEq] at read
    obtain ⟨some, p, raised, rfl, rfl⟩ := read
    rw [power?_eq_some_iff] at raised
    have filled : whole ++ fraction ≠ [] := by
      rw [ne_eq, List.append_eq_nil_iff, not_and]
      exact some
    have value := (spells_ten_iff (whole ++ fraction) _).mpr ⟨filled, isDigits, rfl⟩
    rcases pointed with ⟨rfl, rfl⟩ | rfl
    · have digits : Spells 10 whole (natOfDecimalDigits (whole ++ [])) := by
        simpa only [List.append_nil] using value
      exact .mk signed (.whole digits) raised
    · rw [← List.append_assoc whole]
      exact .mk signed (.point value) raised
  · intro spelled
    obtain @⟨sign, _, power, _, _, _, _, signed, digits, raised⟩ := spelled
    have signCut := splitSign_append signed (digits.plain power)
    obtain ⟨whole, fraction, rest, digitsCut, pointCut, filled, rfl, rfl⟩ := digits.cut raised.head?
    have some : ¬(whole.isEmpty = true ∧ fraction.isEmpty = true) := by
      rwa [List.isEmpty_iff, List.isEmpty_iff, ← List.append_eq_nil_iff]
    simp only [decimal?, signCut, digitsCut, pointCut, if_neg some,
      (power?_eq_some_iff _ _).mpr raised, Option.map_some, Decimal.ofDigits]

/-! ### Numbers -/

theorem SpellsSign.solid {sign : List Char} {negative : Bool} (signed : SpellsSign sign negative) :
    ∀ c ∈ sign, Text.isBlank c = false := by
  apply Text.solid_of_all
  cases signed <;> decide

theorem SpellsDigits.solid {digits : List Char} {n places : Nat}
    (spelled : SpellsDigits digits n places) : ∀ c ∈ digits, Text.isBlank c = false := by
  cases spelled with
  | whole spelled => exact spelled.solid (by decide)
  | @point whole fraction n spelled =>
    obtain ⟨left, right⟩ := List.forall_mem_append.mp (spelled.solid (by decide))
    exact List.forall_mem_append.mpr ⟨left, List.forall_mem_cons.mpr ⟨by decide, right⟩⟩

theorem SpellsPower.solid {power : List Char} {p : Int} (raised : SpellsPower power p) :
    ∀ c ∈ power, Text.isBlank c = false := by
  cases raised with
  | none => simp
  | some exponent signed spelled =>
    refine List.forall_mem_cons.mpr ⟨?_, List.forall_mem_append.mpr
      ⟨signed.solid, spelled.solid (by decide)⟩⟩
    rcases exponent with rfl | rfl <;> decide

private theorem number?_isSome_iff_trim (cs : List Char) :
    (number? cs).isSome = true ↔ IsNumber (Text.trim cs) := by
  unfold number?
  split
  · rename_i empty
    rw [empty]
    exact iff_of_true rfl .nothing
  · rename_i filled
    split
    · rename_i n read
      obtain ⟨mark, radix, digits, spelled, marked, value, bound⟩ :=
        (literal?_eq_some_iff _ n).mp read
      rw [spelled]
      exact iff_of_true rfl (.literal marked value bound)
    · rename_i unread
      constructor
      · intro found
        obtain ⟨x, kept⟩ := Option.isSome_iff_exists.mp found
        obtain ⟨read, finite⟩ := Option.filter_eq_some_iff.mp kept
        obtain ⟨⟨negative, d⟩, numeral, rfl⟩ := Option.map_eq_some_iff.mp read
        exact .decimal ((decimal?_eq_some_iff _ negative d).mp numeral)
          ((d.isFinite_toDouble_iff negative).mp finite)
      · intro number
        generalize Text.trim cs = number' at *
        cases number with
        | nothing => exact absurd rfl filled
        | @literal mark radix n digits marked value bound =>
          have read := (literal?_eq_some_iff _ n).mpr
            ⟨mark, radix, digits, rfl, marked, value, bound⟩
          cases unread.symm.trans read
        | @decimal _ negative d spelled bound =>
          have numeral := (decimal?_eq_some_iff _ negative d).mpr spelled
          have finite := (d.isFinite_toDouble_iff negative).mpr bound
          simp [numeral, finite]

private theorem IsNumber.solid {cs : List Char} (number : IsNumber cs) :
    ∀ c ∈ cs, Text.isBlank c = false := by
  cases number with
  | nothing => simp
  | literal marked spelled bound =>
    have digits := spelled.solid marked.bounds.2
    exact List.forall_mem_cons.mpr
      ⟨by decide, List.forall_mem_cons.mpr ⟨marked.letter.2, digits⟩⟩
  | decimal spelled bound =>
    obtain ⟨signed, digits, raised⟩ := spelled
    exact List.forall_mem_append.mpr
      ⟨signed.solid, List.forall_mem_append.mpr ⟨digits.solid, raised.solid⟩⟩

private theorem number?_isSome_iff (cs : List Char) :
    (number? cs).isSome = true ↔ ∃ n, IsPadded n cs ∧ IsNumber n := by
  rw [number?_isSome_iff_trim]
  constructor
  · intro number
    exact ⟨_, Text.isPadded_trim cs, number⟩
  · rintro ⟨n, padded, number⟩
    rwa [padded.trim_eq, Text.trim_solid number.solid]

/-! ### Counts -/

private theorem splitUnit_append {letter : Char} (known : letter = 'k' ∨ letter = 'm')
    (body : List Char) :
    (splitUnit (body ++ [letter])).1 = body := by
  rcases known with rfl | rfl <;> simp [splitUnit]

theorem splitUnit_bare {body : List Char} (none : ∀ c ∈ body.getLast?, c ≠ 'k' ∧ c ≠ 'm') :
    splitUnit body = (body, 1) := by
  unfold splitUnit
  split
  · rename_i last
    exact absurd rfl (none 'k' last).1
  · rename_i last
    exact absurd rfl (none 'm' last).2
  · rfl

/-- A text is read as a count of bytes exactly if, without one letter for a unit at its end and
without the blanks around it then, nothing is left, or a literal of 64 bits, or a decimal numeral
that is not rounded to infinity. -/
theorem ofText?_isSome_iff (text : String) :
    (ofText? text).isSome = true ↔ ∃ n, Measures n text.toList ∧ IsNumber n := by
  have read : (ofText? text).isSome = (number? (splitUnit text.toList).1).isSome := by
    simp [ofText?]
  rw [read, number?_isSome_iff]
  generalize text.toList = cs
  constructor
  · rintro ⟨n, padded, number⟩
    refine ⟨n, ?_, number⟩
    by_cases unit : ∃ body letter, cs = body ++ [letter] ∧ (letter = 'k' ∨ letter = 'm')
    · obtain ⟨body, letter, rfl, known⟩ := unit
      rw [splitUnit_append known] at padded
      exact .unit known padded
    · have none : ∀ c ∈ cs.getLast?, c ≠ 'k' ∧ c ≠ 'm' := by
        intro c last
        obtain ⟨body, spelled⟩ := List.getLast?_eq_some_iff.mp last
        exact not_or.mp fun known => unit ⟨body, c, spelled, known⟩
      rw [splitUnit_bare none] at padded
      exact .bare none padded
  · rintro ⟨n, measured, number⟩
    refine ⟨n, ?_, number⟩
    cases measured with
    | unit known padded =>
      rw [splitUnit_append known]
      exact padded
    | bare none padded =>
      rw [splitUnit_bare none]
      exact padded

end RequestFilter.Size
