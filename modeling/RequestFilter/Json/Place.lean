import RequestFilter.Json.Cause

/-!
Where a JSON text is refused.

Reading passes on the text that is left, so a place is that text, with a count of bytes of its next
character that have been looked at as well. Only when a fault leaves the reader is the place turned
into a line and a column.
-/

set_option autoImplicit false

namespace RequestFilter.Json

/-- A place in a text: what is left of it, and how many bytes of that have been seen. -/
structure Place where
  rest : List Char
  seen : Nat
  deriving DecidableEq

namespace Place

def before (rest : List Char) : Place := ⟨rest, 0⟩

def past : Nat → List Char → Place
  | _, [] => ⟨[], 0⟩
  | n, c :: cs => if c.utf8Size ≤ n then past (n - c.utf8Size) cs else ⟨c :: cs, n⟩

/-- The place after looking at the next byte. -/
def peek (rest : List Char) : Place := past 1 rest

def advance (position : Nat × Nat) (c : Char) : Nat × Nat :=
  if c = '\n' then (position.1 + 1, 0) else (position.1, position.2 + c.utf8Size)

/-- The line and column of a place in a text. Lines count from one, and the column is the number of
bytes since the last line feed. -/
def lineColumn (text : List Char) (p : Place) : Nat × Nat :=
  let (line, column) := (text.take (text.length - p.rest.length)).foldl advance (1, 0)
  (line, column + p.seen)

end Place

/-- A cause with its place. A cause that is found out only when an object or array is complete has
no place of its own: the enclosing reader gives it one. -/
structure Fault where
  cause : Cause
  place : Option Place
  deriving DecidableEq

namespace Fault

def found (cause : Cause) (place : Place) : Fault := ⟨cause, some place⟩

/-- The fault with a place, its own if it has one. -/
def placed (place : Place) (f : Fault) : Fault := ⟨f.cause, some (f.place.getD place)⟩

end Fault

structure Error where
  cause : Cause
  line : Nat
  column : Nat
  deriving DecidableEq

def Error.message (e : Error) : String :=
  s!"{e.cause.message} at line {e.line} column {e.column}"

def Fault.toError (text : List Char) (f : Fault) : Error :=
  let (line, column) := (f.place.getD (.before [])).lineColumn text
  ⟨f.cause, line, column⟩

end RequestFilter.Json
