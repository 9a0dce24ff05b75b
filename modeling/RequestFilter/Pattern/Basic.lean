/-!
Patterns: regular expressions over the characters of a text.
-/

set_option autoImplicit false

namespace RequestFilter

namespace Pattern

/-- A set of characters, with about how many spans of code points it is made of and whether it is
known to be all ASCII. -/
structure CharClass where
  holds : Char → Bool
  spans : Nat
  ascii : Bool

instance : CoeFun CharClass fun _ => Char → Bool := ⟨CharClass.holds⟩

/-- About how many bytes the class takes in a compiled pattern: one state with its spans in ASCII,
and beyond that a state for each byte of the spans' encodings. -/
def CharClass.weight (p : CharClass) : Nat := if p.ascii then 32 + 8 * p.spans else 64 * p.spans

inductive Boundary
  | any | none | start | stop | startHalf | stopHalf
  deriving DecidableEq

/-- A condition on a place in a text. With `crlf` a carriage return ends a line too, and with
`ascii` only ASCII characters are of a word. -/
inductive Look
  | textStart
  | textEnd
  | lineStart (crlf : Bool)
  | lineEnd (crlf : Bool)
  | word (ascii : Bool) (boundary : Boundary)
  deriving DecidableEq

end Pattern

inductive Pattern
  | empty
  | one (set : Pattern.CharClass)
  | look (condition : Pattern.Look)
  | seq (first second : Pattern)
  | alt (first second : Pattern)
  /-- At least `least` times, and at most `most` times if that is given. -/
  | repeated (least : Nat) (most : Option Nat) (body : Pattern)

namespace Pattern

/-- Whether a pattern, by its form, matches nothing but the empty text. -/
def takesNone : Pattern → Bool
  | .empty | .look _ => true
  | .one _ => false
  | .seq p q | .alt p q => p.takesNone && q.takesNone
  | .repeated _ most p => most == some 0 || p.takesNone

/-- About how many bytes a pattern takes once its repetitions are written out. A part without an
upper bound is written out as often as it must match, and at least once; a part that takes no
characters is written out at most once. -/
def weight : Pattern → Nat
  | .empty | .look _ => 32
  | .one set => set.weight
  | .seq p q => p.weight + q.weight
  | .alt p q => p.weight + q.weight + 40
  | .repeated least most p =>
    let times := most.getD (max least 1)
    if p.takesNone then min times 1 * p.weight
    else times * p.weight + (times - least) * 40

end Pattern

end RequestFilter
