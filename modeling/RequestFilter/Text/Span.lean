/-!
Sets of code points as lists of spans in ascending order, and their compact spelling for large
tables.
-/

set_option autoImplicit false

namespace RequestFilter.Text

structure Span where
  first : Nat
  last : Nat
  deriving DecidableEq, Repr

namespace Span

/-- Whether one of several spans in ascending order holds a code point. -/
def anyHolds : List Span → Nat → Bool
  | [], _ => false
  | s :: ss, n => s.first ≤ n && (n ≤ s.last || anyHolds ss n)

def hexValue (c : Char) : Nat :=
  if c.isDigit then c.toNat - '0'.toNat
  else if 'A' ≤ c ∧ c ≤ 'F' then c.toNat - 'A'.toNat + 10
  else 0

/-- Reads spans such as `41-5A`, or `AA` for a single code point, with one space after each.
The arguments are the first end, if a dash was seen, and the number under way. -/
def readSpans : Option Nat → Nat → List Char → List Span
  | start, n, [] => [⟨start.getD n, n⟩]
  | start, n, ' ' :: cs => ⟨start.getD n, n⟩ :: readSpans none 0 cs
  | _, n, '-' :: cs => readSpans (some n) 0 cs
  | start, n, c :: cs => readSpans start (n * 16 + hexValue c) cs

def ofText (text : String) : List Span :=
  if text.isEmpty then [] else readSpans none 0 text.toList

def ofLines (lines : List String) : List Span := lines.flatMap ofText

end Span
end RequestFilter.Text
