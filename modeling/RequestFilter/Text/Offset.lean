/-!
The length of a text in bytes of UTF-8, and reading a text by offsets into its bytes. Each offset is
checked before it is used, so that a read beyond the end, or a cut inside a character, is seen as a
fault.
-/

set_option autoImplicit false

namespace RequestFilter.Text

def byteLength : List Char → Nat
  | [] => 0
  | c :: cs => c.utf8Size + byteLength cs

inductive OffsetFault
  | beyondEnd
  | insideCharacter
  | reversed
  deriving DecidableEq

/-- The bytes of a text, each as the character of its number. In UTF-8 a number below 128 stands
for that character, and all others belong to longer characters. -/
def byteChars (text : String) : Array Char := text.toUTF8.data.map Char.ofUInt8

def byteAt (bytes : Array Char) (i : Nat) : Except OffsetFault Char :=
  match bytes[i]? with
  | some c => .ok c
  | none => .error .beyondEnd

def bytesBetween (bytes : Array Char) (first last : Nat) : Except OffsetFault (Array Char) :=
  if last < first then .error .reversed
  else if bytes.size < last then .error .beyondEnd
  else .ok (bytes.extract first last)

/-- The text from one offset to another. Both must lie between two characters. -/
def textBetween (text : String) (first last : Nat) : Except OffsetFault String :=
  if last < first then .error .reversed
  else if text.utf8ByteSize < last then .error .beyondEnd
  else if h : (String.Pos.Raw.mk first).IsValid text ∧ (String.Pos.Raw.mk last).IsValid text then
    .ok (text.extract ⟨⟨first⟩, h.1⟩ ⟨⟨last⟩, h.2⟩)
  else .error .insideCharacter

/-- The offset of the first byte that `stops`, of the next `count` bytes from `i` on, or else the
offset after these. -/
def seek (stops : Char → Bool) (bytes : Array Char) : Nat → Nat → Except OffsetFault Nat
  | i, 0 => .ok i
  | i, count + 1 => do
    let c ← byteAt bytes i
    if stops c then return i else seek stops bytes (i + 1) count

end RequestFilter.Text
