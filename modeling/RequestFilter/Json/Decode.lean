import RequestFilter.Json.Node

/-!
Reading domain values off a JSON tree.

A `Decoder` walks a tree in the order of the text and stops at the first fault, whether the text
breaks off there or the shape is another than the wanted one. Values that nobody asks for are only
checked, by `Node.skipFault?`, and may be nested without limit; what is decoded may be nested as
deep as the number of levels that the decoder is given.
-/

set_option autoImplicit false

namespace RequestFilter.Json

def maxDepth : Nat := 127

/-- A reader of trees. Its first argument is the number of levels of nesting that are left. -/
abbrev Decoder (α : Type) := Nat → Node → Except Fault α

/-! ### Faults of the text -/

def noValue : List Char → Fault
  | [] => .found .endInValue (.before [])
  | cs => .found .expectedValue (.peek cs)

def listGap (stand : Stand) : List Char → Fault
  | [] => .found (if stand = .comma then .endInValue else .endInList) (.before [])
  | cs =>
    .found (if stand = .comma then .trailingComma else .expectedListCommaOrEnd) (.peek cs)

/-- The fault where an array should end because all its places are taken. -/
def listEndGap (stand : Stand) : List Char → Fault
  | [] => .found (if stand = .comma then .trailingCharacters else .endInList) (.before [])
  | cs => .found (if stand = .comma then .trailingComma else .trailingCharacters) (.peek cs)

def objectGap (stand : Stand) : List Char → Fault
  | [] => .found (if stand = .comma then .endInValue else .endInObject) (.before [])
  | c :: cs =>
    match stand with
    | .opened => .found .keyMustBeString (.peek (c :: cs))
    | .element => .found .expectedObjectCommaOrEnd (.peek (c :: cs))
    | .comma =>
      .found (if c = '}' then .trailingComma else .keyMustBeString) (.peek (c :: cs))

def noColon : List Char → Fault
  | [] => .found .endInObject (.before [])
  | cs => .found .expectedColon (.peek cs)

/-- The fault in a key that breaks off. -/
def keyFault (source : List Char) (fault : Fault) : Fault :=
  match readString source with
  | .error strict => strict
  | .ok _ => fault

/-! ### Values that nobody asks for -/

mutual

/-- The fault in a value that is only checked. -/
def Node.skipFault? : Node → Option Fault
  | .word _ _ (.error fault) => some fault
  | .number _ (.error fault) => some fault
  | .string _ (.error fault) => some fault
  | .word _ _ (.ok _) => none
  | .number _ (.ok _) => none
  | .string _ (.ok _) => none
  | .array _ items => items.skipFault?
  | .object _ members => members.skipFault?
  | .absent source => some (noValue source)

def Items.skipFault? : Items → Option Fault
  | .close _ => none
  | .gap stand source => some (if stand = .comma then noValue source else listGap stand source)
  | .item value more =>
    match value.skipFault? with
    | some fault => some fault
    | none => more.skipFault?
  | .cut => none

def Members.skipFault? : Members → Option Fault
  | .close _ => none
  | .gap stand source =>
    some (objectGap (if stand = .comma then .opened else stand) source)
  | .brokenKey _ fault => some fault
  | .loneKey _ after => some (noColon after)
  | .member _ _ value more =>
    match value.skipFault? with
    | some fault => some fault
    | none => more.skipFault?
  | .cut => none

end

/-! ### Shapes that are not the wanted one -/

def Number.found : Number → Found
  | .natural n => .integer n
  | .negative z => .integer z
  | .double x => .float x

def Word.found : Word → Found
  | .null => .null
  | .true => .boolean Bool.true
  | .false => .boolean Bool.false

/-- The fault of a value that is not of the wanted kind. A scalar is read to its end first. -/
def mismatch (wanted : String) : Node → Fault
  | .word _ _ (.error fault) => fault
  | .word _ word (.ok rest) => .found (.invalidType word.found wanted) (.before rest)
  | .number source _ =>
    match readNumber source with
    | .error fault => fault
    | .ok (n, rest) => .found (.invalidType n.found wanted) (.before rest)
  | .string source _ =>
    match readString source with
    | .error fault => fault
    | .ok (s, rest) => .found (.invalidType (.string s) wanted) (.before rest)
  | .array source _ => .found (.invalidType .sequence wanted) (.before source)
  | .object source _ => .found (.invalidType .map wanted) (.before source)
  | .absent source => noValue source

/-! ### Scalars -/

def string : Decoder String := fun _ node =>
  match node with
  | .string source _ => (readString source).map Prod.fst
  | node => .error (mismatch "a string" node)

def boolean : Decoder Bool := fun _ node =>
  match node with
  | .word _ .true (.ok _) => .ok true
  | .word _ .false (.ok _) => .ok false
  | node => .error (mismatch "a boolean" node)

def double : Decoder Double := fun _ node =>
  match node with
  | .number source _ => (readNumber source).map fun (n, _) => n.toDouble
  | node => .error (mismatch "f64" node)

def word16 : Decoder Nat := fun _ node =>
  match node with
  | .number source _ =>
    match readNumber source with
    | .error fault => .error fault
    | .ok (.natural n, rest) =>
      if n < 0x10000 then .ok n
      else .error (.found (.invalidValue (.integer n) "u16") (.before rest))
    | .ok (.negative z, rest) =>
      .error (.found (.invalidValue (.integer z) "u16") (.before rest))
    | .ok (.double x, rest) =>
      .error (.found (.invalidType (.float x) "u16") (.before rest))
  | node => .error (mismatch "u16" node)

def optional {α : Type} (decoder : Decoder α) : Decoder (Option α) := fun levels node =>
  match node with
  | .word _ .null (.ok _) => .ok none
  | .word _ .null (.error fault) => .error fault
  | node => (decoder levels node).map some

/-- A value, or null for a default one. -/
def orDefault {α : Type} (default : α) (decoder : Decoder α) : Decoder α := fun levels node =>
  (optional decoder levels node).map (·.getD default)

/-! ### Whole trees -/

/-- One level of nesting fewer, if there is one. -/
def enter (levels : Nat) (node : Node) : Except Fault Nat :=
  match levels with
  | 0 => .error (.found .tooDeep (.peek node.start))
  | levels + 1 => .ok levels

mutual

def Node.value (levels : Nat) (node : Node) : Except Fault Value :=
  match node with
  | .word _ _ (.error fault) => .error fault
  | .word _ .null (.ok _) => .ok .null
  | .word _ .true (.ok _) => .ok (.boolean true)
  | .word _ .false (.ok _) => .ok (.boolean false)
  | .number source _ => (readNumber source).map fun (n, _) => .number n
  | .string source _ => (readString source).map fun (s, _) => .string s
  | .array source items => do
    let levels ← enter levels (.array source items)
    return .array (← items.values levels)
  | .object source members => do
    let levels ← enter levels (.object source members)
    return .object (← members.values levels)
  | .absent source => .error (noValue source)

def Items.values (levels : Nat) (items : Items) : Except Fault (List Value) :=
  match items with
  | .close _ => .ok []
  | .gap stand source => .error (listGap stand source)
  | .item value more => do
    let v ← value.value levels
    return v :: (← more.values levels)
  | .cut => .ok []

def Members.values (levels : Nat) (members : Members) : Except Fault (List (String × Value)) :=
  match members with
  | .close _ => .ok []
  | .gap stand source => .error (objectGap stand source)
  | .brokenKey source fault => .error (keyFault source fault)
  | .loneKey source after => do
    let _ ← readString source
    .error (noColon after)
  | .member source _ value more => do
    let (key, _) ← readString source
    let v ← value.value levels
    return (key, v) :: (← more.values levels)
  | .cut => .ok []

end

/-- Any value that one of several shapes, tried in order, makes sense of. The whole value is read
before the first is tried. -/
def choice {α : Type} (name : String) (accept? : Value → Option α) : Decoder α := fun levels node =>
  match node.value levels with
  | .error fault => .error fault
  | .ok v =>
    match accept? v with
    | some a => .ok a
    | none => .error ⟨.noVariant name, none⟩

/-! ### Lists -/

def listEndPlace (rest : List Char) : Place :=
  match skipSpace rest with
  | ']' :: rest => .before rest
  | ',' :: rest => .before (skipSpace rest)
  | rest => .before rest

def objectEndPlace (rest : List Char) : Place :=
  match skipSpace rest with
  | '}' :: rest => .before rest
  | rest => .before rest

def Items.decode {α : Type} (decoder : Decoder α) (levels : Nat) : Items → Except Fault (List α)
  | .close _ => .ok []
  | .gap stand source => .error (listGap stand source)
  | .item value more => do
    let a ← (decoder levels value).mapError (·.placed (listEndPlace (value.rest?.getD [])))
    return a :: (← more.decode decoder levels)
  | .cut => .ok []

def list {α : Type} (decoder : Decoder α) : Decoder (List α) := fun levels node =>
  match node with
  | .array source items => do
    let levels ← enter levels (.array source items)
    items.decode decoder levels
  | node => .error (mismatch "a sequence" node)

/-! ### Structures -/

/-- A field of a structure that is under way as a draft: its name, whether it must be given, and how
its value is read into the draft. -/
structure Field (δ : Type) where
  name : String
  required : Bool
  put : Nat → Node → δ → Except Fault δ

namespace Field

variable {α δ : Type}

def defaulted (name : String) (decoder : Decoder α) (set : δ → α → δ) : Field δ :=
  ⟨name, false, fun levels node draft => (decoder levels node).map (set draft)⟩

def mandatory (name : String) (decoder : Decoder α) (set : δ → α → δ) : Field δ :=
  ⟨name, true, fun levels node draft => (decoder levels node).map (set draft)⟩

/-- Reads a value into a draft; a fault without a place gets the given one. -/
def putAt (f : Field δ) (place : Place) (levels : Nat) (node : Node) (draft : δ) : Except Fault δ :=
  (f.put levels node draft).mapError (·.placed place)

end Field

/-- How a structure is read: as an object of its fields, or as an array of them in order. -/
structure Shape (δ : Type) where
  name : String
  fields : List (Field δ)
  empty : δ

namespace Shape

variable {δ : Type}

def wantedLength (shape : Shape δ) : String :=
  s!"struct {shape.name} with {shape.fields.length} elements"

def decodeItems (shape : Shape δ) (levels : Nat) : List (Field δ) → Items → δ → Except Fault δ
  | [], .close _, draft => .ok draft
  | [], .gap stand source, _ => .error (listEndGap stand source)
  | [], .item value _, _ => .error (.found .trailingCharacters (.peek value.start))
  | f :: fs, .close rest, draft =>
    if f.required then
      .error (.found (.invalidLength (shape.fields.length - (fs.length + 1)) shape.wantedLength)
        (.before rest))
    else shape.decodeItems levels fs (.close rest) draft
  | _ :: _, .gap stand source, _ => .error (listGap stand source)
  | f :: fs, .item value more, draft => do
    let draft ← f.putAt (listEndPlace (value.rest?.getD [])) levels value draft
    shape.decodeItems levels fs more draft
  | _, .cut, draft => .ok draft

/-- The members of an object as fields. `seen` holds the names of the fields already read. -/
def decodeMembers (shape : Shape δ) (levels : Nat) :
    Members → List String → δ → Except Fault δ
  | .close rest, seen, draft =>
    match shape.fields.find? fun f => f.required && !seen.contains f.name with
    | some f => .error (.found (.missingField f.name) (.before rest))
    | none => .ok draft
  | .gap stand source, _, _ => .error (objectGap stand source)
  | .brokenKey source fault, _, _ => .error (keyFault source fault)
  | .loneKey source after, seen, _ => do
    let (key, _) ← readString source
    if seen.contains key then .error (.found (.duplicateField key) (objectEndPlace after))
    else .error (noColon after)
  | .member source after value more, seen, draft => do
    let (key, _) ← readString source
    match shape.fields.find? fun f => f.name == key with
    | none =>
      match value.skipFault? with
      | some fault => .error fault
      | none => shape.decodeMembers levels more seen draft
    | some f =>
      if seen.contains key then .error (.found (.duplicateField key) (objectEndPlace after))
      else
        let draft ← f.putAt (objectEndPlace (value.rest?.getD [])) levels value draft
        shape.decodeMembers levels more (key :: seen) draft
  | .cut, _, draft => .ok draft

def decode (shape : Shape δ) : Decoder δ := fun levels node =>
  match node with
  | .array source items => do
    let levels ← enter levels (.array source items)
    shape.decodeItems levels shape.fields items shape.empty
  | .object source members => do
    let levels ← enter levels (.object source members)
    shape.decodeMembers levels members [] shape.empty
  | node => .error (mismatch s!"struct {shape.name}" node)

end Shape

/-! ### Names -/

def named {α : Type} (names : List (String × α)) (source : List Char) : Reading α :=
  match readString source with
  | .error fault => .error fault
  | .ok (name, rest) =>
    match names.find? fun n => n.1 == name with
    | some (_, a) => .ok (a, rest)
    | none => .error (.found (.unknownVariant name (names.map Prod.fst)) (.before rest))

/-- The value that a name stands for, given alone as a string or as the key of a null. -/
def oneOf {α : Type} (names : List (String × α)) : Decoder α := fun levels node =>
  match node with
  | .string source _ => (named names source).map Prod.fst
  | .object source members => do
    let _ ← enter levels (.object source members)
    match Node.read source.tail with
    | .string key _ =>
      let (a, rest) ← named names key
      match skipSpace rest with
      | ':' :: text =>
        match Node.read text with
        | .word _ .null (.ok rest) =>
          match skipSpace rest with
          | '}' :: _ => .ok a
          | [] => .error (.found .endInObject (.before []))
          | rest => .error (.found .expectedValue (.before rest))
        | other => .error (mismatch "unit" other)
      | after => .error (noColon after)
    | other => .error (mismatch "variant identifier" other)
  | .absent source => .error (noValue source)
  | node => .error (.found .expectedValue (.peek node.start))

/-! ### Whole texts -/

/-- The value of a whole text: one value with nothing but space around it. -/
def decodeText {α : Type} (decoder : Decoder α) (text : List Char) : Except Error α :=
  let node := Node.read text
  match decoder maxDepth node with
  | .error fault => .error (fault.toError text)
  | .ok a =>
    match skipSpace (node.rest?.getD []) with
    | [] => .ok a
    | rest => .error ((Fault.found .trailingCharacters (.peek rest)).toError text)

end RequestFilter.Json
