import RequestFilter.Text.Offset

/-!
The scheme and the host of a URL, found without reading the rest of it.

A URL is cut into pieces whose concatenation is the URL again; offsets are counted off the pieces.
-/

set_option autoImplicit false

namespace RequestFilter.Url

open Text (byteLength)

def isSchemeChar (c : Char) : Bool := c.isAlphanum || c = '+' || c = '-' || c = '.'

/-- Whether a text is a scheme: a letter, then letters, digits and the three marks. -/
def isScheme : List Char → Bool
  | [] => false
  | c :: cs => c.isAlpha && cs.all isSchemeChar

def splitScheme? (url : List Char) : Option (List Char × List Char) :=
  match url.span (· ≠ ':') with
  | (scheme, ':' :: rest) => if isScheme scheme then some (scheme, rest) else none
  | _ => none

def endsAuthority (c : Char) : Bool := c = '/' || c = '?' || c = '#'

/-- Whether a character ends a host that is not in brackets. -/
def endsHost (c : Char) : Bool := endsAuthority c || c = ':'

structure HostSplit where
  before : List Char
  host : List Char
  after : List Char
  deriving DecidableEq

/-- The user's part of an authority with its `@`, and the text after it. -/
def splitUser (authority : List Char) : List Char × List Char :=
  match authority.span fun c => c ≠ '@' && !endsAuthority c with
  | (user, '@' :: rest) => (user ++ ['@'], rest)
  | _ => ([], authority)

/-- The host at the start of a text, and the text after it. A host in brackets must be closed. -/
def splitHostName? : List Char → Option (List Char × List Char)
  | '[' :: cs =>
    match cs.span (· ≠ ']') with
    | (name, ']' :: rest) => some ('[' :: name ++ [']'], rest)
    | _ => none
  | cs => some (cs.span fun c => !endsHost c)

/-- The host of a URL whose scheme is followed by two slashes. -/
def splitHost? (url : List Char) : Option HostSplit :=
  match splitScheme? url with
  | some (scheme, '/' :: '/' :: rest) =>
    let (user, rest) := splitUser rest
    (splitHostName? rest).map fun (host, after) =>
      ⟨scheme ++ [':', '/', '/'] ++ user, host, after⟩
  | _ => none

def scheme? (url : String) : Option String :=
  (splitScheme? url.toList).map fun (scheme, _) => .ofList scheme

/-- The offset in bytes after the scheme's colon and the two slashes that may follow it. -/
def schemeEnd? (url : String) : Option Nat :=
  match splitScheme? url.toList with
  | some (scheme, '/' :: '/' :: _) => some (byteLength scheme + 3)
  | some (scheme, _) => some (byteLength scheme + 1)
  | none => none

def hostPosition? (url : String) : Option (Nat × Nat) :=
  (splitHost? url.toList).map fun s =>
    (byteLength s.before, byteLength s.before + byteLength s.host)

/-- The host, unless it is empty. Brackets belong to it. -/
def host? (url : String) : Option String :=
  match splitHost? url.toList with
  | some s => if s.host.isEmpty then none else some (.ofList s.host)
  | none => none

end RequestFilter.Url
