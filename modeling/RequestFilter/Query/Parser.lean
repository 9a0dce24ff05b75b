import RequestFilter.Query.Basic
import RequestFilter.Query.Size
import RequestFilter.Text.Case
import RequestFilter.Text.Search

/-!
Reading a query from the text of the filter box.

Tokens are separated by blanks. A token `flag:value` is a predicate if `flag` is the name of a flag,
with a dash before it for the negation; every other token is a term. Reading never fails.
-/

set_option autoImplicit false

namespace RequestFilter

/-- The value of a flag as typed: a count of bytes for sizes, the pattern itself for `regexp`, and
lower-case text for all others. An empty value is an empty text for every flag. -/
def Flag.valueOf (flag : Flag) (typed : String) : FlagValue :=
  if typed.isEmpty then .text ""
  else if flag.isSize then .size (Size.ofText? typed)
  else if flag = .regexp then .text typed
  else .text (Text.lower typed)

/-- A key without one leading dash, and whether it had one. -/
def splitDash : List Char → Bool × List Char
  | '-' :: cs => (true, cs)
  | cs => (false, cs)

/-- The predicate that a token stands for, if its key names a flag. -/
def Predicate.ofToken? (token : List Char) : Option Predicate := do
  let (key, value) ← Text.splitAt? ':' token
  let (negative, name) := splitDash key
  let flag ← Flag.ofName? (.ofList name)
  return ⟨flag, flag.valueOf (.ofList value), negative⟩

namespace Query

def consToken (token : List Char) (q : Query) : Query :=
  match Predicate.ofToken? token with
  | some p => { q with predicates := p :: q.predicates }
  | none => { q with terms := .ofList token :: q.terms }

def ofTokens (tokens : List (List Char)) : Query := tokens.foldr consToken empty

def parse (text : String) : Query := ofTokens (Text.words text.toList)

end Query
end RequestFilter
