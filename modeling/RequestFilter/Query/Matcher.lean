import RequestFilter.Query.Evaluate

/-!
Queries made ready for many requests.

What does not depend on a request is worked out once: text patterns are read, and the predicates for
which nothing was typed are known. A matcher also holds the categories that it admits.
-/

set_option autoImplicit false

namespace RequestFilter

/-- What a predicate compares with, made ready. The test of a pattern is none if its text is
refused. -/
inductive Operand
  | text (s : String)
  | size (x : Option Double)
  | pattern (test : Option (String → Bool))

def Operand.ofValue (compile : Pattern.Compiler) (flag : Flag) : FlagValue → Operand
  | .text s => if flag = .regexp then .pattern (compile s) else .text s
  | .size x => .size x

/-- The rule of a flag for a value made ready. Only `regexp` knows patterns, and it knows nothing
else. -/
def Request.matchesOperand (r : Request) (flag : Flag) : Operand → Bool
  | .text s => r.matchesText flag s
  | .size (some x) => r.matchesSize flag x
  | .size none => false
  | .pattern test => flag == .regexp && test.any fun found => found r.url

/-- A predicate made ready. It is vacuous if nothing was typed for it. -/
structure ReadyPredicate where
  flag : Flag
  operand : Operand
  negative : Bool
  vacuous : Bool

namespace ReadyPredicate

def ofPredicate (compile : Pattern.Compiler) (p : Predicate) : ReadyPredicate :=
  ⟨p.flag, .ofValue compile p.flag p.value, p.negative, p.value.isBlank⟩

def holds (p : ReadyPredicate) (r : Request) : Bool :=
  p.vacuous || r.matchesOperand p.flag p.operand != p.negative

end ReadyPredicate

/-- A query made ready, with the categories that it admits. -/
structure Matcher where
  terms : List String
  predicates : List ReadyPredicate
  categories : CategorySet

namespace Matcher

/-- Makes a query ready. It admits all categories. -/
def ofQuery (q : Query) : Matcher :=
  ⟨q.terms, q.predicates.map (.ofPredicate Pattern.compile?), .full⟩

def withCategories (m : Matcher) (s : CategorySet) : Matcher := { m with categories := s }

def keeps (m : Matcher) (r : Request) : Bool :=
  m.categories.admits r && m.terms.all r.matchesTerm && m.predicates.all fun p => p.holds r

def filter (m : Matcher) (rs : List Request) : List Request := rs.filter m.keeps

def places (m : Matcher) (rs : List Request) : List Nat :=
  (rs.zipIdx.filter fun (r, _) => m.keeps r).map Prod.snd

end Matcher

/-- Whether a request matches the text of a filter box. An empty text matches all requests. -/
def Request.matchesFilter (r : Request) (text : String) : Bool :=
  text.isEmpty || (Matcher.ofQuery (Query.parse text)).keeps r

end RequestFilter
