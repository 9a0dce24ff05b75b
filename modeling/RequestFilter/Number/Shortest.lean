import RequestFilter.Number.Decimal

/-!
The fewest decimal digits that read back as a given number.

On the grid of decimals with `n` digits a magnitude has two neighbours. The first grid with a
neighbour that reads back decides; of two such neighbours the nearer is taken, and a `Tie` says
which one when both are as near. A magnitude is a whole number of units, so it is itself a decimal,
and that decimal is the answer should no grid have one.
-/

set_option autoImplicit false

namespace RequestFilter

inductive Tie
  | even | up
  deriving DecidableEq

namespace Double

/-- The place of the decimal point of a positive magnitude, counted from its first digit. -/
def decimalOrder (rank : Nat) : Int :=
  decimalWidth (units rank * Nat.pow 10 340 / unitsPerOne) - 340

def exactDecimal (rank : Nat) : Decimal :=
  ⟨units rank * Nat.pow 5 unitExponent, -unitExponent⟩

/-- A decimal that rounds to the magnitude of the rank. -/
def readsBack (rank : Nat) (d : Decimal) : Bool := d.toDouble false = clamp false rank

/-- Of two decimals the one that reads back; if both do, the preferred one. -/
def choose? (rank : Nat) (preferLow : Bool) (low high : Decimal) : Option Decimal :=
  match readsBack rank low, readsBack rank high with
  | true, true => some (if preferLow then low else high)
  | true, false => some low
  | false, true => some high
  | false, false => none

/-- The neighbour with `count` digits that reads back, the nearer of two. -/
def neighbour? (tie : Tie) (rank count : Nat) : Option Decimal :=
  let power := decimalOrder rank - count
  let num := units rank * Nat.pow 10 (-power).toNat
  let den := unitsPerOne * Nat.pow 10 power.toNat
  let below := num / den
  let left := 2 * (num % den)
  choose? rank (left < den ∨ left = den ∧ tie = .even ∧ below % 2 = 0)
    (Decimal.trim ⟨below, power⟩) (Decimal.trim ⟨below + 1, power⟩)

/-- The fewest digits that read back as the magnitude of the rank. -/
def shortest (tie : Tie) (rank : Nat) : Decimal :=
  if rank = 0 then ⟨0, 0⟩
  else
    match (List.range 17).findSome? fun n => neighbour? tie rank (n + 1) with
    | some d => d
    | none => exactDecimal rank

end Double
end RequestFilter
