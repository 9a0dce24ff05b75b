import RequestFilter.Query.Parser
import RequestFilter.Request.Basic

/-!
Suggestions for the last token of a filter box.

A token `flag:typed` is completed with values of the flag that occur in the requests. If there are
none, and for every other token, names of flags are suggested. Suggestions stand in the order of
their code points, and accepting one replaces the last token.
-/

set_option autoImplicit false

namespace RequestFilter

/-- A suggestion: the completed token, and the whole text with it. -/
structure Suggestion where
  display : String
  text : String
  deriving DecidableEq

namespace Suggestion

def states : List String := ["cached", "from-cache", "running"]

/-- The names of all flags with a colon, first as they are and then negated. -/
def names : List String :=
  Flag.all.map (fun f => f.name ++ ":") ++ Flag.all.map fun f => "-" ++ f.name ++ ":"

end Suggestion

/-- The values of a flag in a request. Sizes and patterns have none. -/
def Request.observed (r : Request) (flag : Flag) : List String :=
  match flag with
  | .statusCode => r.status.toList
  | .method => r.method.toList
  | .protocol => r.httpVersion.toList
  | .scheme => r.scheme?.toList
  | .domain => r.host?.toList
  | .remoteIp => r.remoteAddress.toList
  | .cause => r.causeKind?.toList
  | .mimeType => r.mimeType.toList
  | .hasResponseHeader => (r.headers?.getD []).map Header.name
  | .setCookieName => r.cookies.map Cookie.name
  | .setCookieValue => r.cookies.map Cookie.value
  | .setCookieDomain => r.cookies.filterMap r.cookieDomain?
  | .is => Suggestion.states
  | .transferred | .size | .largerThan | .transferredLargerThan | .regexp => []

namespace Suggestion

/-- The values that a flag has in any of the requests. The states of `is` need no request. -/
def observedValues (flag : Flag) (rs : List Request) : List String :=
  if flag = .is then states else rs.flatMap fun r => r.observed flag

def continues (typed text : List Char) : Bool :=
  let typed := Text.lowerList typed
  let text := Text.lowerList text
  typed.isPrefixOf text && text != typed

/-- Whether a value is suggested after what was typed: it is not empty, and goes on after it. -/
def suits (typed : List Char) (value : String) : Bool :=
  !value.isEmpty && (typed.isEmpty || continues typed value.toList)

def valueCandidates (token : List Char) (rs : List Request) : List String :=
  match Text.splitAt? ':' token with
  | none => []
  | some (key, typed) =>
    match Flag.ofName? (.ofList (splitDash key).2) with
    | none => []
    | some flag =>
      ((observedValues flag rs).filter (suits typed)).eraseDups.map fun value =>
        .ofList (key ++ ':' :: value.toList)

def nameCandidates (token : List Char) : List String :=
  names.filter fun name => continues token name.toList

def candidates (token : List Char) (rs : List Request) : List String :=
  let values := valueCandidates token rs
  (if values.isEmpty then nameCandidates token else values).mergeSort fun a b => a ≤ b

/-- The tokens of a text. A blank at its start counts as an empty token before it. -/
def tokens (cs : List Char) : List (List Char) :=
  if cs.head?.any Text.isBlank then [] :: Text.words cs else Text.words cs

/-- The suggestions for a text, of which there are none after a blank. -/
def ofText (text : String) (rs : List Request) : List Suggestion :=
  let cs := text.toList
  if cs.getLast?.all Text.isBlank then []
  else
    let ts := tokens cs
    (candidates (ts.getLast?.getD []) rs).map fun candidate =>
      ⟨candidate, " ".intercalate (ts.dropLast.map String.ofList ++ [candidate])⟩

end Suggestion
end RequestFilter
