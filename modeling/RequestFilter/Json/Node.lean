import RequestFilter.Json.Lexeme

/-!
A JSON text as a tree.

`Node.read` finds the extent of each part and leaves the rest to the readers of trees: a numeral's
range, a string's surrogates and the depth of nesting are not looked at here, because a value that
nobody asks for may break those rules. Reading never fails. Where the text goes wrong the tree
breaks off, and what stands there instead is kept, so that each reader of the tree can name the
fault when it gets there, after whatever it finds wrong before.
-/

set_option autoImplicit false

namespace RequestFilter.Json

inductive Word
  | null | true | false
  deriving DecidableEq

/-- Where in an array or object the text stands: after the opening bracket, after an element, or
after a comma. -/
inductive Stand
  | opened | element | comma
  deriving DecidableEq

mutual

/-- A value in a text. `source` is the text from the value's first character, but for a string the
text after its opening quote. `rest` is the text after the value, or why the value breaks off. -/
inductive Node
  | word (source : List Char) (word : Word) (rest : Except Fault (List Char))
  | number (source : List Char) (rest : Except Fault (List Char))
  | string (source : List Char) (rest : Except Fault (List Char))
  | array (source : List Char) (items : Items)
  | object (source : List Char) (members : Members)
  | absent (source : List Char)

/-- The elements of an array, and how they end. -/
inductive Items
  | close (rest : List Char)
  /-- Neither an element nor what may stand between elements. -/
  | gap (stand : Stand) (source : List Char)
  | item (value : Node) (more : Items)
  /-- The element before breaks off. -/
  | cut

/-- The members of an object, and how they end. -/
inductive Members
  | close (rest : List Char)
  | gap (stand : Stand) (source : List Char)
  /-- A key that breaks off. -/
  | brokenKey (source : List Char) (fault : Fault)
  /-- A key that no colon follows in `after`. -/
  | loneKey (source after : List Char)
  /-- A key, the text from its colon on, and its value. -/
  | member (source after : List Char) (value : Node) (more : Members)
  | cut

end

mutual

/-- The text after a value, if the value is whole. -/
def Node.rest? : Node → Option (List Char)
  | .word _ _ rest => rest.toOption
  | .number _ rest => rest.toOption
  | .string _ rest => rest.toOption
  | .array _ items => items.rest?
  | .object _ members => members.rest?
  | .absent _ => none

def Items.rest? : Items → Option (List Char)
  | .close rest => some rest
  | .item _ more => more.rest?
  | .gap _ _ => none
  | .cut => none

def Members.rest? : Members → Option (List Char)
  | .close rest => some rest
  | .member _ _ _ more => more.rest?
  | .gap _ _ => none
  | .brokenKey _ _ => none
  | .loneKey _ _ => none
  | .cut => none

end

def Node.start : Node → List Char
  | .word source _ _ => source
  | .number source _ => source
  | .string source _ => '"' :: source
  | .array source _ => source
  | .object source _ => source
  | .absent source => source

mutual

/-- The value at the start of a text. The fuel bounds the steps. -/
def Node.readFor : Nat → List Char → Node
  | 0, cs => .absent cs
  | _, [] => .absent []
  | fuel + 1, c :: cs =>
    match c with
    | 'n' => .word (c :: cs) .null (skipLetters ['u', 'l', 'l'] cs)
    | 't' => .word (c :: cs) .true (skipLetters ['r', 'u', 'e'] cs)
    | 'f' => .word (c :: cs) .false (skipLetters ['a', 'l', 's', 'e'] cs)
    | '"' => .string cs (skipString cs)
    | '[' => .array (c :: cs) (Items.readFor fuel .opened (skipSpace cs))
    | '{' => .object (c :: cs) (Members.readFor fuel .opened (skipSpace cs))
    | _ =>
      if c = '-' ∨ c.isDigit then
        .number (c :: cs) ((Numeral.read .invalidNumber (c :: cs)).map Prod.snd)
      else .absent (c :: cs)

def Items.readFor : Nat → Stand → List Char → Items
  | 0, stand, cs => .gap stand cs
  | _, stand, [] => .gap stand []
  | fuel + 1, stand, c :: cs =>
    if c = ']' then if stand = .comma then .gap .comma (c :: cs) else .close cs
    else if stand = .element then
      if c = ',' then Items.readFor fuel .comma (skipSpace cs) else .gap .element (c :: cs)
    else
      let value := Node.readFor fuel (c :: cs)
      match value.rest? with
      | some rest => .item value (Items.readFor fuel .element (skipSpace rest))
      | none => .item value .cut

def Members.readFor : Nat → Stand → List Char → Members
  | 0, stand, cs => .gap stand cs
  | _, stand, [] => .gap stand []
  | fuel + 1, stand, c :: cs =>
    if c = '}' then if stand = .comma then .gap .comma (c :: cs) else .close cs
    else if stand = .element then
      if c = ',' then Members.readFor fuel .comma (skipSpace cs) else .gap .element (c :: cs)
    else if c = '"' then
      match skipString cs with
      | .error fault => .brokenKey cs fault
      | .ok afterKey =>
        match skipSpace afterKey with
        | ':' :: text =>
          let value := Node.readFor fuel (skipSpace text)
          match value.rest? with
          | some rest =>
            .member cs (':' :: text) value (Members.readFor fuel .element (skipSpace rest))
          | none => .member cs (':' :: text) value .cut
        | after => .loneKey cs after
    else .gap stand (c :: cs)

end

def Node.read (cs : List Char) : Node := Node.readFor (2 * cs.length + 1) (skipSpace cs)

end RequestFilter.Json
