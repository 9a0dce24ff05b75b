import RequestFilter.Query.Evaluate
import RequestFilter.Suggest

/-!
A session at the filter box: requests come and go, categories are chosen, and a query is typed with
the help of suggestions. A step that fails changes nothing.
-/

set_option autoImplicit false

namespace RequestFilter

inductive CategorySource
  | default
  | snapshot (json : String)
  | names (list : List String)
  | mask (n : Nat)

def CategorySource.resolve : CategorySource → Except LoadError CategorySet
  | .default => .ok .full
  | .snapshot json => CategorySet.ofJson json
  | .names list => CategorySet.ofNames list
  | .mask n => .ok (.ofNat n)

structure Session where
  requests : List Request
  categories : CategorySet
  query : String

namespace Session

def initial : Session := ⟨[], .full, ""⟩

inductive Step
  | load (text : String)
  | append (text : String)
  | clear
  | chooseCategories (source : CategorySource)
  | setQuery (text : String)
  /-- Types at the end of the query. -/
  | type (text : String)
  | suggest
  /-- Accepts the suggestion at a place, if there is one. -/
  | accept (index : Nat)
  /-- Replaces the requests by those that are kept, written out and loaded again. -/
  | reload

def kept (s : Session) : List Request := filterRequests s.requests s.query s.categories

def suggestions (s : Session) : List Suggestion := Suggestion.ofText s.query s.requests

def dump (rs : List Request) : String := "\n".intercalate (rs.map Request.toLine)

/-- The state after a step, and the suggestions if it asks for them. -/
def step? (s : Session) : Step → Except LoadError (Session × Option (List Suggestion))
  | .load text => (Request.load text).map fun rs => ({ s with requests := rs }, none)
  | .append text =>
    (Request.load text).map fun rs => ({ s with requests := s.requests ++ rs }, none)
  | .clear => .ok ({ s with requests := [] }, none)
  | .chooseCategories source =>
    source.resolve.map fun categories => ({ s with categories := categories }, none)
  | .setQuery text => .ok ({ s with query := text }, none)
  | .type text => .ok ({ s with query := s.query ++ text }, none)
  | .suggest => .ok (s, some s.suggestions)
  | .accept index =>
    let query := match s.suggestions[index]? with
      | some suggestion => suggestion.text
      | none => s.query
    .ok ({ s with query := query }, some s.suggestions)
  | .reload => (Request.load (dump s.kept)).map fun rs => ({ s with requests := rs }, none)

structure Outcome where
  suggestions : Option (List Suggestion)
  failure : Option LoadError
  state : Session

/-- A step; the state stays if it fails. -/
def step (s : Session) (a : Step) : Outcome :=
  match s.step? a with
  | .ok (state, suggestions) => ⟨suggestions, none, state⟩
  | .error e => ⟨none, some e, s⟩

/-- What each of several steps leads to, from one state on. -/
def run (s : Session) : List Step → List Outcome
  | [] => []
  | a :: steps =>
    let outcome := s.step a
    outcome :: run outcome.state steps

end Session
end RequestFilter
