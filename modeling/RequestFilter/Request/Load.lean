import RequestFilter.Request.Json
import RequestFilter.Text.Blank

/-!
Loading a dump of requests: a JSON array, or one JSON object on each line.
-/

set_option autoImplicit false

namespace RequestFilter

/-- Why a dump or a list of categories cannot be used. A line is counted from one. -/
inductive LoadError
  | json (line : Nat) (error : Json.Error)
  | unknownCategory (name : String)
  | empty
  deriving DecidableEq

def LoadError.message : LoadError → String
  | .json line error => s!"Invalid JSON at line {line}: {error.message}"
  | .unknownCategory name => s!"Unknown request type: {name}"
  | .empty => "No request records found"

namespace Request

/-- The requests of the lines from a given line number on. Blank lines are passed over. -/
def loadLinesFrom : Nat → List (List Char) → Except LoadError (List Request)
  | _, [] => .ok []
  | line, cs :: rest =>
    match Text.trim cs with
    | [] => loadLinesFrom (line + 1) rest
    | text =>
      match Json.decodeText decode text with
      | .error e => .error (.json line e)
      | .ok r => (loadLinesFrom (line + 1) rest).map (r :: ·)

def loadLines (text : List Char) : Except LoadError (List Request) :=
  loadLinesFrom 1 (Text.lines text)

def loadArray (text : List Char) : Except LoadError (List Request) :=
  (Json.decodeText (Json.list decode) text).mapError fun e => .json e.line e

/-- Whether a text is taken for one array: its first character that is not blank opens one. -/
def isArrayText (text : List Char) : Bool := (Text.trimLeft text).head? = some '['

/-- The requests of a dump, of which there must be one. -/
def load (text : String) : Except LoadError (List Request) := do
  let cs := text.toList
  let requests ← if isArrayText cs then loadArray cs else loadLines cs
  if requests.isEmpty then .error .empty else .ok requests

end Request
end RequestFilter
