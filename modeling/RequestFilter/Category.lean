import RequestFilter.Request.Load
import RequestFilter.Text.Case
import RequestFilter.Text.Search

/-!
Categories of requests, sets of them, and the category that a request falls into.
-/

set_option autoImplicit false

namespace RequestFilter

/-- A coarse kind of request. -/
inductive Category
  | html | css | js | xhr | fonts | images | media | ws | other
  deriving DecidableEq, Repr

namespace Category

def all : List Category := [.html, .css, .js, .xhr, .fonts, .images, .media, .ws, .other]

def name : Category → String
  | .html => "html"
  | .css => "css"
  | .js => "js"
  | .xhr => "xhr"
  | .fonts => "fonts"
  | .images => "images"
  | .media => "media"
  | .ws => "ws"
  | .other => "other"

/-- The bit of a category in a set. -/
def bit (c : Category) : Nat := all.idxOf c

end Category

/-- A set of categories, one bit for each. -/
structure CategorySet where
  bits : BitVec 9
  deriving DecidableEq

namespace CategorySet

def empty : CategorySet := ⟨0⟩

def full : CategorySet := ⟨BitVec.allOnes 9⟩

def single (c : Category) : CategorySet := ⟨BitVec.twoPow 9 c.bit⟩

def contains (s : CategorySet) (c : Category) : Bool := s.bits.getLsbD c.bit

def union (s t : CategorySet) : CategorySet := ⟨s.bits ||| t.bits⟩

def inter (s t : CategorySet) : CategorySet := ⟨s.bits &&& t.bits⟩

def diff (s t : CategorySet) : CategorySet := ⟨s.bits &&& ~~~t.bits⟩

def symmDiff (s t : CategorySet) : CategorySet := ⟨s.bits ^^^ t.bits⟩

def isEmpty (s : CategorySet) : Bool := s.bits == 0

def ofList (cs : List Category) : CategorySet :=
  cs.foldl (fun s c => s.union (single c)) empty

def ofNat (n : Nat) : CategorySet := ⟨BitVec.ofNat 9 n⟩

/-- Whether a set restricts nothing: it is empty or full. -/
def isUnrestricted (s : CategorySet) : Bool := s.isEmpty || s == full

def fullName : String := "all"

def named : List (String × CategorySet) :=
  (fullName, full) :: Category.all.map fun c => (c.name, single c)

/-- The set that a name stands for; blanks around it and the case of its letters do not matter. -/
def ofName? (name : String) : Option CategorySet :=
  let key := (Text.trim name.toList).map Char.toLower
  (named.find? fun n => n.1.toList == key).map Prod.snd

/-- The names of a set's categories, or the one name for all if it restricts nothing. -/
def names (s : CategorySet) : List String :=
  if s.isUnrestricted then [fullName]
  else (Category.all.filter fun c => s.contains c).map Category.name

/-- The union of named sets, or the first name that stands for none. -/
def unionOfNames : List String → Except String CategorySet
  | [] => .ok empty
  | name :: names =>
    match ofName? name with
    | none => .error name
    | some s => (unionOfNames names).map s.union

/-- The set of a list of names. No names restrict nothing. -/
def ofNames (names : List String) : Except LoadError CategorySet :=
  match unionOfNames names with
  | .error name => .error (.unknownCategory name)
  | .ok s => .ok (if s.isEmpty then full else s)

end CategorySet

/-! ### Classification -/

def playlistTypes : List String := ["application/vnd.apple.mpegurl", "application/x-mpegurl"]

namespace Request

def holdsAny (text : String) (parts : List String) : Bool := parts.any (Text.holds text)

def isFont (r : Request) (mime : String) : Bool :=
  holdsAny mime ["font/", "/font"] || holdsAny r.url [".eot", ".ttf", ".otf", ".woff"]

def isMedia (mime : String) : Bool :=
  holdsAny mime ["audio/", "video/", "model/"] || playlistTypes.contains mime

def isWebSocket (r : Request) : Bool :=
  r.causeKind? == some "websocket" ||
    (r.headers?.getD []).any fun h =>
      Text.lowerAscii h.name == "upgrade" && Text.lowerAscii h.value == "websocket"

def contentCategories (r : Request) : List Category :=
  let mime := r.mimeType.getD ""
  let test (b : Bool) (c : Category) : List Category := if b then [c] else []
  test (Text.holds mime "/html") .html ++
    test (Text.holds mime "/css") .css ++
    test (holdsAny mime ["/ecmascript", "/javascript", "/x-javascript"]) .js ++
    test (r.isFont mime) .fonts ++
    test (Text.holds mime "image/") .images ++
    test (isMedia mime) .media

/-- The categories that are told by how the request is made. A web socket is nothing else. -/
def transportCategories (r : Request) : List Category :=
  if r.isWebSocket then [.ws]
  else if r.causeKind? == some "xhr" || r.causeKind? == some "fetch" then [.xhr]
  else []

/-- The categories of a request. What falls into no other category is `other`. -/
def categories (r : Request) : CategorySet :=
  match r.contentCategories ++ r.transportCategories with
  | [] => .single .other
  | cs => .ofList cs

end Request

/-- Whether a set lets a request pass: it restricts nothing, or has a category of the request. -/
def CategorySet.admits (s : CategorySet) (r : Request) : Bool :=
  s.isUnrestricted || !(s.inter r.categories).isEmpty

/-! ### Preferences -/

def CategorySet.snapshotShape : Json.Shape (List String) where
  name := "RawPrefs"
  empty := []
  fields := [.defaulted "requestTypes" (Json.list Json.string) fun _ names => names]

/-- The set that a JSON snapshot of preferences asks for. -/
def CategorySet.ofJson (text : String) : Except LoadError CategorySet :=
  match Json.decodeText snapshotShape.decode text.toList with
  | .error e => .error (.json e.line e)
  | .ok names => ofNames names

end RequestFilter
