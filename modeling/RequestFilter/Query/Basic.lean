import RequestFilter.Number.Double
import RequestFilter.Query.Flag

/-!
Queries: terms that are sought in the URL, and predicates on flags.
-/

set_option autoImplicit false

namespace RequestFilter

/-- What a predicate compares with: a text, or a count of bytes, which is unknown where the typed
value was not a number. -/
inductive FlagValue
  | text (s : String)
  | size (x : Option Double)
  deriving DecidableEq

namespace FlagValue

/-- Whether nothing was typed after the colon. -/
def isBlank : FlagValue → Bool
  | .text s => s.isEmpty
  | .size _ => false

def text? : FlagValue → Option String
  | .text s => some s
  | .size _ => none

def size? : FlagValue → Option Double
  | .text _ => none
  | .size x => x

end FlagValue

/-- A predicate `flag:value`, or `-flag:value` for its negation. -/
structure Predicate where
  flag : Flag
  value : FlagValue
  negative : Bool
  deriving DecidableEq

/-- A query: its terms and its predicates, each in the order typed. A term keeps a leading dash. -/
structure Query where
  terms : List String
  predicates : List Predicate
  deriving DecidableEq

namespace Query

def empty : Query := ⟨[], []⟩

def isEmpty (q : Query) : Bool := q.terms.isEmpty && q.predicates.isEmpty

end Query
end RequestFilter
