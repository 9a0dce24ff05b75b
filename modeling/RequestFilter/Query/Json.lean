import RequestFilter.Json.Decode
import RequestFilter.Json.Render
import RequestFilter.Query.Basic

/-!
Queries as JSON.
-/

set_option autoImplicit false

namespace RequestFilter

open Json (Decoder Shape Value)

/-! ### Writing -/

/-- A flag's value as JSON: a string, a number, or null for an unknown count. -/
def FlagValue.toJson : FlagValue → Value
  | .text s => .string s
  | .size (some x) => .number (.double x)
  | .size none => .null

def Predicate.toJson (p : Predicate) : Value :=
  .object [("type", .string p.flag.name), ("value", p.value.toJson), ("negative", .boolean p.negative)]

def Query.toJson (q : Query) : Value :=
  .object
    [("text", .array (q.terms.map .string)), ("flags", .array (q.predicates.map Predicate.toJson))]

/-! ### Reading -/

def Flag.decode : Decoder Flag := Json.oneOf (Flag.all.map fun f => (f.name, f))

def FlagValue.ofJson? : Value → Option FlagValue
  | .string s => some (.text s)
  | .null => some (.size none)
  | .number n => some (.size (some n.toDouble))
  | _ => none

namespace Predicate

/-- The parts of a predicate that have been read. -/
structure Draft where
  flag : Option Flag := none
  value : Option FlagValue := none
  negative : Option Bool := none

def shape : Shape Draft where
  name := "FlagFilter"
  empty := {}
  fields :=
    [.mandatory "type" Flag.decode fun d v => { d with flag := some v },
      .mandatory "value" (Json.choice "FlagValue" FlagValue.ofJson?)
        fun d v => { d with value := some v },
      .mandatory "negative" Json.boolean fun d v => { d with negative := some v }]

/-- The predicate of a complete draft; what is missing gets a default. -/
def ofDraft (d : Draft) : Predicate :=
  ⟨d.flag.getD .statusCode, d.value.getD (.text ""), d.negative.getD false⟩

def decode : Decoder Predicate := fun levels node => (shape.decode levels node).map ofDraft

def ofJson (text : String) : Except Json.Error Predicate := Json.decodeText decode text.toList

end Predicate

namespace Query

def shape : Shape Query where
  name := "ParsedQuery"
  empty := empty
  fields :=
    [.mandatory "text" (Json.list Json.string) fun q v => { q with terms := v },
      .mandatory "flags" (Json.list Predicate.decode) fun q v => { q with predicates := v }]

def decode : Decoder Query := shape.decode

def ofJson (text : String) : Except Json.Error Query := Json.decodeText decode text.toList

end Query
end RequestFilter
