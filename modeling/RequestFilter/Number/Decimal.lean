import RequestFilter.Number.Double

/-!
Decimal numerals: a whole significand with a power of ten, read from digits and rounded to a number
of 64 bits.
-/

set_option autoImplicit false

namespace RequestFilter

def digitValue? (c : Char) : Option Nat :=
  if c.isDigit then some (c.toNat - '0'.toNat)
  else if c.isLower then some (c.toNat - 'a'.toNat + 10)
  else if c.isUpper then some (c.toNat - 'A'.toNat + 10)
  else none

/-- The whole number that digits spell in a radix. No digits spell nothing. -/
def natOfDigits? (radix : Nat) : List Char → Option Nat
  | [] => none
  | c :: cs => List.foldlM step 0 (c :: cs)
where
  step (n : Nat) (d : Char) : Option Nat :=
    (digitValue? d).bind fun v => if v < radix then some (n * radix + v) else none

/-- The whole number that decimal digits spell; no digits spell zero. -/
def natOfDecimalDigits (cs : List Char) : Nat :=
  cs.foldl (fun n c => n * 10 + (c.toNat - '0'.toNat)) 0

def decimalWidth (n : Nat) : Nat := (Nat.toDigits 10 n).length

/-- The number `significand · 10 ^ exponent`. -/
structure Decimal where
  significand : Nat
  exponent : Int
  deriving DecidableEq, Inhabited

namespace Decimal

def ofDigits (whole fraction : List Char) (power : Int) : Decimal :=
  ⟨natOfDecimalDigits (whole ++ fraction), power - fraction.length⟩

/-- The place of the point, counted from the first digit: the value lies below `10 ^ order`. -/
def order (d : Decimal) : Int := decimalWidth d.significand + d.exponent

/-- The nearest number of 64 bits. Beyond the orders that such numbers have, the answer is infinity
or zero without raising ten to the power. -/
def toDouble (negative : Bool) (d : Decimal) : Double :=
  if d.significand = 0 ∨ d.order < -330 then .clamp negative 0
  else if 310 < d.order then .clamp negative Double.infinityRank
  else .ofRatio negative (d.significand * Nat.pow 10 d.exponent.toNat)
      (Nat.pow 10 (-d.exponent).toNat)

/-- The largest power of ten below infinity. -/
def maxPower : Nat := 308

def powerOfTen (k : Nat) : Double := .ofNat (Nat.pow 10 k)

/-- A number divided by `10 ^ k`, by no more than the largest power at once. The count bounds the
divisions by that. -/
def shrink : Nat → Double → Nat → Double
  | 0, x, k => x / powerOfTen k
  | count + 1, x, k =>
    if k ≤ maxPower then x / powerOfTen k
    else if x = .ofNat 0 then x
    else shrink count (x / powerOfTen maxPower) (k - maxPower)

/-- The significand as a number of 64 bits, multiplied or divided by the power of ten. This rounds
twice, and is not always the nearest number. -/
def scaled (d : Decimal) : Double :=
  let x := .ofNat d.significand
  if d.exponent < 0 then shrink ((-d.exponent).toNat / maxPower) x (-d.exponent).toNat
  else if d.exponent ≤ maxPower then x * powerOfTen d.exponent.toNat
  else if d.significand = 0 then x
  else .clamp false Double.infinityRank

/-- The same value without zeros at the end of its significand; the fuel bounds the zeros taken. -/
def trimFor : Nat → Decimal → Decimal
  | 0, d => d
  | fuel + 1, d =>
    if d.significand ≠ 0 ∧ d.significand % 10 = 0 then
      trimFor fuel ⟨d.significand / 10, d.exponent + 1⟩
    else d

def trim (d : Decimal) : Decimal := trimFor (decimalWidth d.significand) d

end Decimal
end RequestFilter
