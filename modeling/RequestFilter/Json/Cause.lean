import RequestFilter.Json.NumberText
import RequestFilter.Text.Quoted

/-!
Why a JSON text is refused, and the wording of each cause.
-/

set_option autoImplicit false

namespace RequestFilter.Json

/-- What stands in the text where something else was wanted. -/
inductive Found
  | null
  | boolean (b : Bool)
  | integer (z : Int)
  | float (x : Double)
  | string (s : String)
  | sequence
  | map
  deriving DecidableEq

def Found.message : Found → String
  | .null => "null"
  | .boolean b => s!"boolean `{b}`"
  | .integer z => s!"integer `{z}`"
  | .float x => s!"floating point `{String.ofList (doubleText x)}`"
  | .string s => s!"string {Text.quoted s}"
  | .sequence => "sequence"
  | .map => "map"

/-- Why a JSON text is refused. The first causes are about JSON as such, the others about the shape
that a reader wants. -/
inductive Cause
  | endInValue | endInList | endInObject | endInString
  | expectedColon | expectedListCommaOrEnd | expectedObjectCommaOrEnd
  | expectedIdent | expectedValue
  | invalidEscape | invalidNumber | numberOutOfRange
  | controlCharacter | keyMustBeString
  | loneSurrogate | endInHexEscape
  | trailingComma | trailingCharacters | tooDeep
  | invalidType (found : Found) (wanted : String)
  | invalidValue (found : Found) (wanted : String)
  | invalidLength (length : Nat) (wanted : String)
  | unknownVariant (name : String) (known : List String)
  | missingField (name : String)
  | duplicateField (name : String)
  | noVariant (choice : String)
  deriving DecidableEq

def Cause.message : Cause → String
  | .endInValue => "EOF while parsing a value"
  | .endInList => "EOF while parsing a list"
  | .endInObject => "EOF while parsing an object"
  | .endInString => "EOF while parsing a string"
  | .expectedColon => "expected `:`"
  | .expectedListCommaOrEnd => "expected `,` or `]`"
  | .expectedObjectCommaOrEnd => "expected `,` or `\x7d`"
  | .expectedIdent => "expected ident"
  | .expectedValue => "expected value"
  | .invalidEscape => "invalid escape"
  | .invalidNumber => "invalid number"
  | .numberOutOfRange => "number out of range"
  | .controlCharacter =>
    "control character (\\u0000-\\u001F) found while parsing a string"
  | .keyMustBeString => "key must be a string"
  | .loneSurrogate => "lone leading surrogate in hex escape"
  | .endInHexEscape => "unexpected end of hex escape"
  | .trailingComma => "trailing comma"
  | .trailingCharacters => "trailing characters"
  | .tooDeep => "recursion limit exceeded"
  | .invalidType found wanted => s!"invalid type: {found.message}, expected {wanted}"
  | .invalidValue found wanted => s!"invalid value: {found.message}, expected {wanted}"
  | .invalidLength length wanted => s!"invalid length {length}, expected {wanted}"
  | .unknownVariant name known =>
    s!"unknown variant `{name}`, expected one of " ++ ", ".intercalate (known.map fun k => s!"`{k}`")
  | .missingField name => s!"missing field `{name}`"
  | .duplicateField name => s!"duplicate field `{name}`"
  | .noVariant choice => s!"data did not match any variant of untagged enum {choice}"

end RequestFilter.Json
