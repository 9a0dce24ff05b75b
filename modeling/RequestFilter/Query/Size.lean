import RequestFilter.Number.Decimal
import RequestFilter.Text.Blank

/-!
Counts of bytes as they are typed: a number, and `k` or `m` after it for powers of 1024.
-/

set_option autoImplicit false

namespace RequestFilter.Size

def radix? (c : Char) : Option Nat :=
  match c.toLower with
  | 'x' => some 16
  | 'o' => some 8
  | 'b' => some 2
  | _ => none

/-- A whole number of 64 bits in a radix that is given by its start, such as `0x1F`. -/
def literal? : List Char → Option Nat
  | '0' :: c :: digits =>
    (radix? c).bind fun radix => (natOfDigits? radix digits).filter (· < 0x10000000000000000)
  | _ => none

def splitSign : List Char → Bool × List Char
  | '-' :: cs => (true, cs)
  | '+' :: cs => (false, cs)
  | cs => (false, cs)

def power? : List Char → Option Int
  | [] => some 0
  | c :: cs =>
    if c = 'e' ∨ c = 'E' then
      let (negative, digits) := splitSign cs
      if digits.isEmpty ∨ !digits.all Char.isDigit then none
      else
        let n := natOfDecimalDigits digits
        some (if negative then -n else n)
    else none

def splitFraction : List Char → List Char × List Char
  | '.' :: cs => cs.span Char.isDigit
  | cs => ([], cs)

/-- A decimal numeral with its sign: digits with or without a point among or around them, and a
power of ten. -/
def decimal? (cs : List Char) : Option (Bool × Decimal) :=
  let (negative, cs) := splitSign cs
  let (whole, cs) := cs.span Char.isDigit
  let (fraction, cs) := splitFraction cs
  if whole.isEmpty ∧ fraction.isEmpty then none
  else (power? cs).map fun power => (negative, .ofDigits whole fraction power)

/-- The number that a text spells, blanks around it aside. Nothing is zero; other than that the
number must be finite. -/
def number? (cs : List Char) : Option Double :=
  match Text.trim cs with
  | [] => some (.ofNat 0)
  | cs =>
    match literal? cs with
    | some n => some (.ofNat n)
    | none =>
      ((decimal? cs).map fun (negative, d) => d.toDouble negative).filter Double.isFinite

def splitUnit (cs : List Char) : List Char × Nat :=
  match cs.getLast? with
  | some 'k' => (cs.dropLast, 1024)
  | some 'm' => (cs.dropLast, 1024 * 1024)
  | _ => (cs, 1)

def ofText? (text : String) : Option Double :=
  let (cs, unit) := splitUnit text.toList
  (number? cs).map (· * .ofNat unit)

end RequestFilter.Size
