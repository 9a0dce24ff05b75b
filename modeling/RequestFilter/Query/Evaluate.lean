import RequestFilter.Category
import RequestFilter.Pattern.Match
import RequestFilter.Query.Parser

/-!
Which requests a query keeps.

A request is kept if its categories are admitted, every term matches its URL, and every predicate
holds. A predicate that nothing was typed for holds of all requests. Otherwise its flag's rule is
asked, which is false of what is unknown, and the answer is turned round for a negative predicate.
-/

set_option autoImplicit false

namespace RequestFilter

/-- Whether a count of bytes lies within a tenth of a size. -/
def isNearSize (count size : Double) : Bool :=
  (size - size.divNat 10).le count && count.le (size + size.divNat 10)

namespace Request

def testLower (text : Option String) (test : String → Bool) : Bool :=
  text.any fun s => test (Text.lower s)

def endpoint? (r : Request) : Option String :=
  r.remoteAddress.map fun address => remoteEndpoint address r.remotePort

/-- Whether the request is in one of the states that `is` knows; other words hold of all. -/
def isInState (r : Request) (state : String) : Bool :=
  if state = "cached" ∨ state = "from-cache" then r.fromCache || r.status == some "304"
  else if state = "running" then r.isRunning
  else true

/-- Whether the text of a pattern is not refused and its pattern matches the URL. -/
def matchesPattern (r : Request) (compile : Pattern.Compiler) (source : String) : Bool :=
  (compile source).any fun found => found r.url

/-- The rule of a flag for a text in lower case. Sizes know no texts, and `regexp` knows patterns
alone. -/
def matchesText (r : Request) (flag : Flag) (text : String) : Bool :=
  match flag with
  | .statusCode => r.status == some text
  | .method => testLower r.method (· == text)
  | .protocol => testLower r.httpVersion (Text.holds · text)
  | .domain => testLower r.host? (Text.holds · text)
  | .remoteIp => testLower r.endpoint? (Text.holds · text)
  | .hasResponseHeader => (r.headers?.getD []).any fun h => Text.lower h.name == text
  | .cause => testLower r.causeKind? (Text.holds · text)
  | .mimeType => r.mimeType.any (Text.holds · text)
  | .is => r.isInState text
  | .scheme => r.scheme? == some text
  | .setCookieDomain => r.cookies.any fun c => (r.cookieDomain? c).any (Text.holds · text)
  | .setCookieName => r.cookies.any fun c => Text.holds (Text.lower c.name) text
  | .setCookieValue => r.cookies.any fun c => Text.holds (Text.lower c.value) text
  | .regexp | .transferred | .size | .largerThan | .transferredLargerThan => false

/-- The rule of a flag for a count of bytes. What comes from the cache is not transferred. Only
sizes know counts. -/
def matchesSize (r : Request) (flag : Flag) (count : Double) : Bool :=
  match flag with
  | .size => r.contentSize.any (isNearSize count ·)
  | .largerThan => r.contentSize.any count.lt
  | .transferred => !r.fromCache && r.transferredSize.any (isNearSize count ·)
  | .transferredLargerThan => !r.fromCache && r.transferredSize.any count.lt
  | _ => false

def matchesValue (r : Request) (compile : Pattern.Compiler) (flag : Flag) : FlagValue → Bool
  | .text s => if flag = .regexp then r.matchesPattern compile s else r.matchesText flag s
  | .size (some x) => r.matchesSize flag x
  | .size none => false

/-- Whether a term matches: it stands in the URL, case aside, or with a dash before it does not. -/
def matchesTerm (r : Request) (term : String) : Bool :=
  let url := Text.lowerList r.url.toList
  match Text.lowerList term.toList with
  | [] => true
  | '-' :: c :: cs => !Text.hasInfix (c :: cs) url
  | cs => Text.hasInfix cs url

end Request

/-- Whether a predicate holds of a request, by a compiler of patterns. -/
def Predicate.holdsBy (compile : Pattern.Compiler) (p : Predicate) (r : Request) : Bool :=
  p.value.isBlank || r.matchesValue compile p.flag p.value != p.negative

def Predicate.holds (p : Predicate) (r : Request) : Bool := p.holdsBy Pattern.compile? r

namespace Query

/-- Whether every term and every predicate of a query matches a request. -/
def accepts (q : Query) (r : Request) : Bool :=
  q.terms.all r.matchesTerm && q.predicates.all fun p => p.holds r

def keeps (q : Query) (categories : CategorySet) (r : Request) : Bool :=
  categories.admits r && q.accepts r

end Query

/-- The requests that the text of a filter box and a set of categories keep, in order. -/
def filterRequests (rs : List Request) (text : String) (categories : CategorySet) : List Request :=
  let q := Query.parse text
  rs.filter (q.keeps categories)

def keptPlaces (rs : List Request) (text : String) (categories : CategorySet) : List Nat :=
  let q := Query.parse text
  (rs.zipIdx.filter fun (r, _) => q.keeps categories r).map Prod.snd

end RequestFilter
