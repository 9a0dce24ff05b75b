import RequestFilter.Number.Decimal

/-!
JSON values.
-/

set_option autoImplicit false

namespace RequestFilter.Json

/-- A number of a JSON text: a whole number of 64 bits where it is one, else the nearest number
of 64 bits. -/
inductive Number
  | natural (n : Nat)
  | negative (z : Int)
  | double (x : Double)
  deriving DecidableEq

def Number.toDouble : Number → Double
  | .natural n => .ofNat n
  | .negative z => .ofInt z
  | .double x => x

/-- A JSON value. Objects keep their members in order, repeated keys included. -/
inductive Value
  | null
  | boolean (b : Bool)
  | number (n : Number)
  | string (s : String)
  | array (items : List Value)
  | object (members : List (String × Value))

end RequestFilter.Json
