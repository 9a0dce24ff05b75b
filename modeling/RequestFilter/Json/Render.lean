import RequestFilter.Json.NumberText

/-!
Writing JSON values, on one line or indented.
-/

set_option autoImplicit false

namespace RequestFilter.Json

/-- A character inside a string: quotes, backslashes and controls are escaped. -/
def escape (c : Char) : List Char :=
  match c with
  | '"' => ['\\', '"']
  | '\\' => ['\\', '\\']
  | '\x08' => ['\\', 'b']
  | '\x0c' => ['\\', 'f']
  | '\n' => ['\\', 'n']
  | '\r' => ['\\', 'r']
  | '\t' => ['\\', 't']
  | c =>
    if c.toNat < 0x20 then
      ['\\', 'u', '0', '0', Nat.digitChar (c.toNat / 16), Nat.digitChar (c.toNat % 16)]
    else [c]

def stringText (s : String) : List Char := '"' :: s.toList.flatMap escape ++ ['"']

mutual

def Value.text : Value → List Char
  | .null => ['n', 'u', 'l', 'l']
  | .boolean true => ['t', 'r', 'u', 'e']
  | .boolean false => ['f', 'a', 'l', 's', 'e']
  | .number n => n.text
  | .string s => stringText s
  | .array [] => ['[', ']']
  | .array (v :: vs) => '[' :: v.text ++ itemsText vs
  | .object [] => ['{', '}']
  | .object ((k, v) :: ms) => '{' :: stringText k ++ ':' :: v.text ++ membersText ms

def itemsText : List Value → List Char
  | [] => [']']
  | v :: vs => ',' :: v.text ++ itemsText vs

def membersText : List (String × Value) → List Char
  | [] => ['}']
  | (k, v) :: ms => ',' :: stringText k ++ ':' :: v.text ++ membersText ms

end

def indent (level : Nat) : List Char := '\n' :: List.replicate (2 * level) ' '

mutual

/-- A value over several lines, at a level of nesting. Empty brackets stay together. -/
def Value.indented (level : Nat) (value : Value) : List Char :=
  match value with
  | .null => ['n', 'u', 'l', 'l']
  | .boolean true => ['t', 'r', 'u', 'e']
  | .boolean false => ['f', 'a', 'l', 's', 'e']
  | .number n => n.text
  | .string s => stringText s
  | .array [] => ['[', ']']
  | .array (v :: vs) => '[' :: indent (level + 1) ++ v.indented (level + 1) ++ itemsIndented level vs
  | .object [] => ['{', '}']
  | .object ((k, v) :: ms) =>
    '{' :: indent (level + 1) ++ stringText k ++ ':' :: ' ' :: v.indented (level + 1) ++
      membersIndented level ms

def itemsIndented (level : Nat) (values : List Value) : List Char :=
  match values with
  | [] => indent level ++ [']']
  | v :: vs => ',' :: indent (level + 1) ++ v.indented (level + 1) ++ itemsIndented level vs

def membersIndented (level : Nat) (members : List (String × Value)) : List Char :=
  match members with
  | [] => indent level ++ ['}']
  | (k, v) :: ms =>
    ',' :: indent (level + 1) ++ stringText k ++ ':' :: ' ' :: v.indented (level + 1) ++
      membersIndented level ms

end

def Value.toText (v : Value) : String := .ofList v.text

def Value.toIndentedText (v : Value) : String := .ofList (v.indented 0)

end RequestFilter.Json
