import RequestFilter.Json.Decode
import RequestFilter.Json.Render
import RequestFilter.Request.Basic

/-!
Requests as JSON.

Reading is lenient where recorders differ: a status may be a number, cookies may stand in an object
of their own, and null stands for a part that is not known. Writing has one form, which reads back
as the same request.
-/

set_option autoImplicit false

namespace RequestFilter

open Json (Decoder Field Shape Value)

/-! ### Reading -/

def UrlDetails.shape : Shape UrlDetails where
  name := "UrlDetails"
  empty := {}
  fields :=
    [.defaulted "scheme" (Json.orDefault "" Json.string) fun d s => { d with scheme := s },
      .defaulted "host" (Json.orDefault "" Json.string) fun d s => { d with host := s }]

def Cause.shape : Shape Cause where
  name := "Cause"
  empty := {}
  fields := [.defaulted "type" (Json.optional Json.string) fun c s => { c with kind := s }]

def Header.shape : Shape Header where
  name := "Header"
  empty := {}
  fields :=
    [.defaulted "name" (Json.orDefault "" Json.string) fun h s => { h with name := s },
      .defaulted "value" (Json.orDefault "" Json.string) fun h s => { h with value := s }]

def ResponseHeaders.shape : Shape ResponseHeaders where
  name := "ResponseHeaders"
  empty := {}
  fields :=
    [.defaulted "headers" (Json.orDefault [] (Json.list Header.shape.decode))
      fun r hs => { r with headers := hs }]

/-- The whole number nearest to zero that is not beyond a number's value, within 64 signed bits. -/
def clampToInt64 (z : Int) : Int := max (-0x8000000000000000) (min 0x7FFFFFFFFFFFFFFF z)

/-- The text of a status that is given as a number: a whole number has neither point nor
exponent. -/
def statusOfDouble (x : Double) : String :=
  match x.toInt? with
  | some z => toString (clampToInt64 z)
  | none => .ofList x.plainText

def status? : Value → Option String
  | .string s => some s
  | .number (.natural n) => some (toString n)
  | .number n => some (statusOfDouble n.toDouble)
  | _ => none

def textOrNull? : Value → Option (Option String)
  | .null => some none
  | .string s => some (some s)
  | _ => none

/-- Reads a named part of a cookie. The names already read must not come again. -/
def Cookie.putMember (state : List String × Cookie) (member : String × Value) :
    Option (List String × Cookie) :=
  let (seen, cookie) := state
  let (key, value) := member
  let known := key = "name" ∨ key = "value" ∨ key = "domain"
  if known ∧ key ∈ seen then none
  else if key = "name" then
    (textOrNull? value).map fun s => (key :: seen, { cookie with name := s.getD "" })
  else if key = "value" then
    (textOrNull? value).map fun s => (key :: seen, { cookie with value := s.getD "" })
  else if key = "domain" then
    (textOrNull? value).map fun s => (key :: seen, { cookie with domain := s })
  else some (seen, cookie)

def cookie? : Value → Option Cookie
  | .object members => (List.foldlM Cookie.putMember ([], {}) members).map Prod.snd
  | .array values =>
    if values.length ≤ 3 then
      (List.foldlM Cookie.putMember ([], {}) (["name", "value", "domain"].zip values)).map Prod.snd
    else none
  | _ => none

def cookieList? : Value → Option (List Cookie)
  | .array values => values.mapM cookie?
  | _ => none

/-- Cookies from an array, or from an object that holds one under a name of its own. -/
def cookies? : Value → Option (List Cookie)
  | .object members =>
    match members.filter fun m => m.1 == "cookies" with
    | [(_, value)] => cookieList? value
    | _ => none
  | value => cookieList? value

namespace Request

def shape : Shape Request where
  name := "RequestRecord"
  empty := {}
  fields :=
    [.defaulted "url" Json.string fun r v => { r with url := v },
      .defaulted "method" (Json.optional Json.string) fun r v => { r with method := v },
      .defaulted "status" (Json.optional (Json.choice "Status" status?))
        fun r v => { r with status := v },
      .defaulted "httpVersion" (Json.optional Json.string) fun r v => { r with httpVersion := v },
      .defaulted "urlDetails" (Json.optional UrlDetails.shape.decode)
        fun r v => { r with urlDetails := v },
      .defaulted "remoteAddress" (Json.optional Json.string)
        fun r v => { r with remoteAddress := v },
      .defaulted "remotePort" (Json.optional Json.word16)
        fun r v => { r with remotePort := v.map Nat.toUInt16 },
      .defaulted "cause" (Json.optional Cause.shape.decode) fun r v => { r with cause := v },
      .defaulted "mimeType" (Json.optional Json.string) fun r v => { r with mimeType := v },
      .defaulted "contentSize" (Json.optional Json.double) fun r v => { r with contentSize := v },
      .defaulted "transferredSize" (Json.optional Json.double)
        fun r v => { r with transferredSize := v },
      .defaulted "fromCache" (Json.orDefault false Json.boolean)
        fun r v => { r with fromCache := v },
      .defaulted "responseHeaders" (Json.optional ResponseHeaders.shape.decode)
        fun r v => { r with responseHeaders := v },
      .defaulted "responseCookies" (Json.optional (Json.choice "Cookies" cookies?))
        fun r v => { r with responseCookies := v }]

def decode : Decoder Request := shape.decode

end Request

/-! ### Writing -/

def Value.ofText? : Option String → Value
  | some s => .string s
  | none => .null

def Value.ofDouble? : Option Double → Value
  | some x => .number (.double x)
  | none => .null

def UrlDetails.toJson (d : UrlDetails) : Value :=
  .object [("scheme", .string d.scheme), ("host", .string d.host)]

def Cause.toJson (c : Cause) : Value := .object [("type", Value.ofText? c.kind)]

def Header.toJson (h : Header) : Value :=
  .object [("name", .string h.name), ("value", .string h.value)]

def ResponseHeaders.toJson (r : ResponseHeaders) : Value :=
  .object [("headers", .array (r.headers.map Header.toJson))]

/-- A cookie as JSON. Only a known domain is written. -/
def Cookie.toJson (c : Cookie) : Value :=
  .object <| [("name", .string c.name), ("value", .string c.value)] ++
    match c.domain with
    | some domain => [("domain", .string domain)]
    | none => []

def Value.ofPart? {α : Type} (toJson : α → Value) : Option α → Value
  | some a => toJson a
  | none => .null

namespace Request

def toJson (r : Request) : Value :=
  .object
    [("url", .string r.url),
      ("method", Value.ofText? r.method),
      ("status", Value.ofText? r.status),
      ("httpVersion", Value.ofText? r.httpVersion),
      ("urlDetails", Value.ofPart? UrlDetails.toJson r.urlDetails),
      ("remoteAddress", Value.ofText? r.remoteAddress),
      ("remotePort", Value.ofPart? (fun p => .number (.natural p.toNat)) r.remotePort),
      ("cause", Value.ofPart? Cause.toJson r.cause),
      ("mimeType", Value.ofText? r.mimeType),
      ("contentSize", Value.ofDouble? r.contentSize),
      ("transferredSize", Value.ofDouble? r.transferredSize),
      ("fromCache", .boolean r.fromCache),
      ("responseHeaders", Value.ofPart? ResponseHeaders.toJson r.responseHeaders),
      ("responseCookies",
        Value.ofPart? (fun cs => .array (cs.map Cookie.toJson)) r.responseCookies)]

def toLine (r : Request) : String := r.toJson.toText

end Request
end RequestFilter
