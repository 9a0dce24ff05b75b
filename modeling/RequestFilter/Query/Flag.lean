/-!
The flags of a query and their names.
-/

set_option autoImplicit false

namespace RequestFilter

/-- What a predicate of a query looks at. -/
inductive Flag
  | statusCode | method | protocol | domain | remoteIp | hasResponseHeader | cause
  | transferred | size | largerThan | transferredLargerThan
  | mimeType | is | scheme | regexp
  | setCookieDomain | setCookieName | setCookieValue
  deriving DecidableEq, Repr

namespace Flag

def all : List Flag :=
  [.statusCode, .method, .protocol, .domain, .remoteIp, .hasResponseHeader, .cause,
    .transferred, .size, .largerThan, .transferredLargerThan,
    .mimeType, .is, .scheme, .regexp,
    .setCookieDomain, .setCookieName, .setCookieValue]

def name : Flag → String
  | .statusCode => "status-code"
  | .method => "method"
  | .protocol => "protocol"
  | .domain => "domain"
  | .remoteIp => "remote-ip"
  | .hasResponseHeader => "has-response-header"
  | .cause => "cause"
  | .transferred => "transferred"
  | .size => "size"
  | .largerThan => "larger-than"
  | .transferredLargerThan => "transferred-larger-than"
  | .mimeType => "mime-type"
  | .is => "is"
  | .scheme => "scheme"
  | .regexp => "regexp"
  | .setCookieDomain => "set-cookie-domain"
  | .setCookieName => "set-cookie-name"
  | .setCookieValue => "set-cookie-value"

/-- The flag of exactly this name. -/
def ofName? (name : String) : Option Flag := all.find? fun f => f.name == name

def index (f : Flag) : Nat := all.idxOf f

def isSize : Flag → Bool
  | .size | .transferred | .largerThan | .transferredLargerThan => true
  | _ => false

end Flag
end RequestFilter
