import RequestFilter.Number.Double
import RequestFilter.Url

/-!
Recorded network requests. All but the URL may be unknown.
-/

set_option autoImplicit false

namespace RequestFilter

structure UrlDetails where
  scheme : String := ""
  host : String := ""
  deriving DecidableEq

structure Cause where
  kind : Option String := none
  deriving DecidableEq

structure Header where
  name : String := ""
  value : String := ""
  deriving DecidableEq

structure ResponseHeaders where
  headers : List Header := []
  deriving DecidableEq

/-- A cookie that a response sets. Without a domain it belongs to the request's host. -/
structure Cookie where
  name : String := ""
  value : String := ""
  domain : Option String := none
  deriving DecidableEq

/-- A request with what is known of its response. -/
structure Request where
  url : String := ""
  method : Option String := none
  status : Option String := none
  httpVersion : Option String := none
  urlDetails : Option UrlDetails := none
  remoteAddress : Option String := none
  remotePort : Option UInt16 := none
  cause : Option Cause := none
  mimeType : Option String := none
  contentSize : Option Double := none
  transferredSize : Option Double := none
  fromCache : Bool := false
  responseHeaders : Option ResponseHeaders := none
  responseCookies : Option (List Cookie) := none
  deriving DecidableEq

namespace Request

/-- The host, from the recorder's details or else from the URL. -/
def host? (r : Request) : Option String :=
  match r.urlDetails with
  | some details => some details.host
  | none => Url.host? r.url

/-- The scheme, from the recorder's details or else from the URL. -/
def scheme? (r : Request) : Option String :=
  match r.urlDetails with
  | some details => some details.scheme
  | none => Url.scheme? r.url

/-- Whether the request has no status yet. -/
def isRunning (r : Request) : Bool :=
  match r.status with
  | some status => status.isEmpty
  | none => true

def causeKind? (r : Request) : Option String := r.cause.bind Cause.kind

def headers? (r : Request) : Option (List Header) := r.responseHeaders.map ResponseHeaders.headers

def cookies (r : Request) : List Cookie := r.responseCookies.getD []

def cookieDomain? (r : Request) (c : Cookie) : Option String :=
  match c.domain with
  | some domain => some domain
  | none => r.host?

end Request

/-- An address as the request list shows it: with its port unless that is zero or unknown, and then
in brackets if it has a colon itself. -/
def remoteEndpoint (address : String) (port : Option UInt16) : String :=
  match port with
  | some p =>
    if p = 0 then address
    else if address.toList.contains ':' then s!"[{address}]:{p.toNat}"
    else s!"{address}:{p.toNat}"
  | none => address

end RequestFilter
