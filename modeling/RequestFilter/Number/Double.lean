/-!
Binary floating-point numbers of 64 bits, kept as ranks.

The non-negative magnitudes stand in increasing order, and the rank of a magnitude is its place in
that order, which is also the number that its bits spell. Rounding a quotient to the nearest
magnitude is therefore a matter of whole numbers: `Double.nearestRank` finds the last magnitude
that is not above the quotient and looks at what is left over.
-/

set_option autoImplicit false

namespace RequestFilter

/-- The rank of infinity. Every smaller rank is finite. -/
def Double.infinityRank : Nat := 0x7FF0000000000000

/-- A number of 64 bits. All not-a-numbers are one. -/
inductive Double
  | nan
  | ranked (negative : Bool) (rank : Nat) (rank_le : rank ≤ Double.infinityRank)
  deriving DecidableEq

namespace Double

/-- How many ranks lie between one power of two and the next. -/
def binade : Nat := 0x10000000000000

/-- The exponent of the unit: every finite magnitude is a whole number of `2 ^ (-1074)`. -/
def unitExponent : Nat := 1074

def unitsPerOne : Nat := Nat.pow 2 unitExponent

/-- The magnitude of a rank, in units. -/
def units (rank : Nat) : Nat :=
  match rank / binade with
  | 0 => rank
  | e + 1 => (binade + rank % binade) * Nat.pow 2 e

/-- The rank nearest to `num / den` units; a tie goes to the even rank. -/
def nearestRank (num den : Nat) : Nat :=
  let shift := (num / den).log2 - 52
  let step := den * Nat.pow 2 shift
  let count := num / step
  let rank := shift * binade + count
  let left := 2 * (num % step)
  if left < step then rank
  else if step < left then rank + 1
  else rank + count % 2

/-- The number of that sign and rank; a rank above infinity's is infinity. -/
def clamp (negative : Bool) (rank : Nat) : Double :=
  .ranked negative (min rank infinityRank) (Nat.min_le_right _ _)

def ofUnits (negative : Bool) (num den : Nat) : Double :=
  clamp negative (nearestRank num den)

def ofRatio (negative : Bool) (num den : Nat) : Double :=
  ofUnits negative (num * unitsPerOne) den

def ofNat (n : Nat) : Double := ofRatio false n 1

/-- The number nearest to `z`; zero is positive. -/
def ofInt (z : Int) : Double := ofRatio (z < 0) z.natAbs 1

instance : Inhabited Double := ⟨ofNat 0⟩

def isFinite : Double → Bool
  | .nan => false
  | .ranked _ rank _ => rank < infinityRank

/-- A finite number as a signed count of units. -/
def toUnits? : Double → Option Int
  | .nan => none
  | .ranked negative rank _ =>
    if rank < infinityRank then
      some (if negative then -(units rank : Int) else units rank)
    else none

def toInt? (x : Double) : Option Int :=
  x.toUnits?.bind fun u => if u % unitsPerOne = 0 then some (u / unitsPerOne) else none

def signBit : Nat := 0x8000000000000000

def toBits : Double → Nat
  | .nan => 0x7FF8000000000000
  | .ranked negative rank _ => if negative then signBit + rank else rank

def ofBits (bits : Nat) : Double :=
  let rank := bits % signBit
  if h : rank ≤ infinityRank then .ranked (signBit ≤ bits) rank h else .nan

/-! ### Arithmetic: exact in units, then rounded once -/

def neg : Double → Double
  | .nan => .nan
  | .ranked negative rank h => .ranked (!negative) rank h

def add : Double → Double → Double
  | .nan, _ => .nan
  | _, .nan => .nan
  | .ranked n a ha, .ranked m b hb =>
    if a = infinityRank then
      if b = infinityRank ∧ n ≠ m then .nan else .ranked n a ha
    else if b = infinityRank then .ranked m b hb
    else if n = m then ofUnits n (units a + units b) 1
    else if units b < units a then ofUnits n (units a - units b) 1
    else if units a < units b then ofUnits m (units b - units a) 1
    else clamp false 0

def sub (x y : Double) : Double := add x y.neg

/-- The number nearest to the product. Infinity times zero is no number. -/
def mul : Double → Double → Double
  | .nan, _ => .nan
  | _, .nan => .nan
  | .ranked n a _, .ranked m b _ =>
    if a = infinityRank ∨ b = infinityRank then
      if a = 0 ∨ b = 0 then .nan else clamp (n != m) infinityRank
    else ofUnits (n != m) (units a * units b) unitsPerOne

/-- The number nearest to the quotient. Infinity by infinity and zero by zero are no numbers. -/
def div : Double → Double → Double
  | .nan, _ => .nan
  | _, .nan => .nan
  | .ranked n a _, .ranked m b _ =>
    if a = infinityRank then if b = infinityRank then .nan else clamp (n != m) infinityRank
    else if b = infinityRank then clamp (n != m) 0
    else if b = 0 then if a = 0 then .nan else clamp (n != m) infinityRank
    else ofRatio (n != m) (units a) (units b)

def divNat : Double → Nat → Double
  | .nan, _ => .nan
  | .ranked n a h, k =>
    if a = infinityRank then .ranked n a h else ofUnits n (units a) k

instance : Neg Double := ⟨neg⟩
instance : Add Double := ⟨add⟩
instance : Sub Double := ⟨sub⟩
instance : Mul Double := ⟨mul⟩
instance : Div Double := ⟨div⟩

/-! ### Order -/

/-- The rank with its sign; both zeros have the key zero. -/
def key? : Double → Option Int
  | .nan => none
  | .ranked negative rank _ => some (if negative then -(rank : Int) else rank)

/-- At most; never true of a not-a-number. -/
def le (x y : Double) : Bool :=
  match x.key?, y.key? with
  | some a, some b => a ≤ b
  | _, _ => false

def lt (x y : Double) : Bool :=
  match x.key?, y.key? with
  | some a, some b => a < b
  | _, _ => false

end Double
end RequestFilter
