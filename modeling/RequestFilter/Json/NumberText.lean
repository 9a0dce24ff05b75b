import RequestFilter.Json.Basic
import RequestFilter.Number.Text

/-!
The texts of numbers in JSON.
-/

set_option autoImplicit false

namespace RequestFilter.Json

/-- The text of a number of 64 bits. From `10 ^ (-5)` to below `10 ^ 16` it is positional with a
fraction, beyond that it has a power of ten. What is not finite is null. -/
def doubleText : Double → List Char
  | .nan => ['n', 'u', 'l', 'l']
  | .ranked negative rank _ =>
    if rank = Double.infinityRank then ['n', 'u', 'l', 'l']
    else if rank = 0 then Double.signed negative ['0', '.', '0']
    else
      let d := Double.shortest .even rank
      Double.signed negative <|
        if -5 < d.order ∧ d.order ≤ 16 then
          let (whole, fraction) := d.positional
          whole ++ '.' :: (if fraction.isEmpty then ['0'] else fraction)
        else d.scientific

def Number.text : Number → List Char
  | .natural n => decimalDigits n
  | .negative z => Double.signed (z < 0) (decimalDigits z.natAbs)
  | .double x => doubleText x

end RequestFilter.Json
