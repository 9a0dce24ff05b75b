import RequestFilter.Pattern.Parser

/-!
Whether a pattern matches somewhere in a text.

A text of `n` characters has `n + 1` places. A set of places is a number whose bit `i` stands for
the place before character `i`. `reach` sends the places where a match may begin to all places where
it may end, so a pattern matches if some place is reached from any.
-/

set_option autoImplicit false

namespace RequestFilter.Pattern

/-- Places of a text that satisfy a test on the characters before and after them. -/
def placesWhere (test : Option Char → Option Char → Bool) (text : List Char) : Nat :=
  go none 1 text
where
  go (before : Option Char) (bit : Nat) : List Char → Nat
    | [] => if test before none then bit else 0
    | c :: cs => (if test before (some c) then bit else 0) + go (some c) (2 * bit) cs

def placesBefore (set : CharClass) (text : List Char) : Nat :=
  placesWhere (fun _ after => after.any set.holds) text

def Boundary.holds (boundary : Boundary) (before after : Bool) : Bool :=
  match boundary with
  | .any => before != after
  | .none => before == after
  | .start => !before && after
  | .stop => before && !after
  | .startHalf => !before
  | .stopHalf => !after

def Look.holds (condition : Look) (before after : Option Char) : Bool :=
  match condition with
  | .textStart => before.isNone
  | .textEnd => after.isNone
  | .lineStart false => before.isNone || before = some '\n'
  | .lineEnd false => after.isNone || after = some '\n'
  | .lineStart true =>
    before.isNone || before = some '\n' || before = some '\r' && after ≠ some '\n'
  | .lineEnd true =>
    after.isNone || after = some '\r' || after = some '\n' && before ≠ some '\r'
  | .word ascii boundary =>
    let isOfWord := if ascii then isAsciiWord else isWord
    boundary.holds (before.any isOfWord) (after.any isOfWord)

/-- Applies a step again and again until nothing changes, at most `n` times. -/
def settle (step : Nat → Nat) : Nat → Nat → Nat
  | 0, places => places
  | n + 1, places =>
    let next := step places
    if next = places then places else settle step n next

/-- The places where a match may end that begins at one of the given places. After as many steps as
there are places, repeating a part once more reaches nothing new. -/
def reach (text : List Char) : Pattern → Nat → Nat
  | .empty, places => places
  | .one set, places => (places &&& placesBefore set text) <<< 1
  | .look condition, places => places &&& placesWhere condition.holds text
  | .seq p q, places => reach text q (reach text p places)
  | .alt p q, places => reach text p places ||| reach text q places
  | .repeated least most p, places =>
    let bound := text.length + 1
    let needed := settle (reach text p) (min least bound) places
    let more := match most with
      | some m => min (m - least) bound
      | none => bound
    settle (fun s => s ||| reach text p s) more needed

def allPlaces (text : List Char) : Nat := Nat.pow 2 (text.length + 1) - 1

def matchesIn (p : Pattern) (text : String) : Bool :=
  reach text.toList p (allPlaces text.toList) != 0

/-- What makes the text of a pattern a test of texts. A text that it refuses has none. -/
abbrev Compiler := String → Option (String → Bool)

/-- The compiler of the program. -/
def compile? : Compiler := fun source => (ofText? source).map matchesIn

end RequestFilter.Pattern
