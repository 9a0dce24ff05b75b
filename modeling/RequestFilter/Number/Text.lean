import RequestFilter.Number.Shortest

/-!
The texts of numbers: positional digits, and powers of ten for very large and very small ones.
-/

set_option autoImplicit false

namespace RequestFilter

def decimalDigits (n : Nat) : List Char := Nat.toDigits 10 n

namespace Decimal

/-- The digits before and after the point, with the zeros that the point's place needs. -/
def positional (d : Decimal) : List Char × List Char :=
  let digits := decimalDigits d.significand
  let order := d.order
  if 0 ≤ d.exponent then (digits ++ List.replicate d.exponent.toNat '0', [])
  else if 0 < order then (digits.take order.toNat, digits.drop order.toNat)
  else (['0'], List.replicate (-order).toNat '0' ++ digits)

/-- One digit, a point before the others if there are any, and the power of ten with its sign. -/
def scientific (d : Decimal) : List Char :=
  let digits := decimalDigits d.significand
  let power := d.order - 1
  digits.take 1 ++ (if digits.length ≤ 1 then [] else '.' :: digits.drop 1) ++
    ['e', if power < 0 then '-' else '+'] ++ decimalDigits power.natAbs

end Decimal

namespace Double

def signed (negative : Bool) (text : List Char) : List Char := if negative then '-' :: text else text

/-- Positional digits, with a point only before digits that follow it. -/
def plainText : Double → List Char
  | .nan => ['N', 'a', 'N']
  | .ranked negative rank _ => signed negative <|
    if rank = infinityRank then ['i', 'n', 'f']
    else
      match (shortest .up rank).positional with
      | (whole, []) => whole
      | (whole, fraction) => whole ++ '.' :: fraction

end Double
end RequestFilter
