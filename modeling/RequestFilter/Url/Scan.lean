import RequestFilter.Text.Offset
import RequestFilter.Url

/-!
The scheme and the host of a URL, found by offsets: the bytes are looked at one after another, and
a piece is cut out of the text only once its ends are known. A bad offset is a fault.
-/

set_option autoImplicit false

namespace RequestFilter.Url.Scan

open Text (OffsetFault byteChars byteAt bytesBetween textBetween seek)

def schemeLength (bytes : Array Char) : Except OffsetFault (Option Nat) :=
  match bytes.findIdx? (· = ':') with
  | none => .ok none
  | some colon => do
    if colon = 0 then return none
    let first ← byteAt bytes 0
    if !first.isAlpha then return none
    let others ← bytesBetween bytes 1 colon
    return if others.all isSchemeChar then some colon else none

def slashesAfter (bytes : Array Char) (colon : Nat) : Except OffsetFault Bool := do
  if colon + 2 < bytes.size then
    let next ← byteAt bytes (colon + 1)
    let second ← byteAt bytes (colon + 2)
    return next = '/' && second = '/'
  else
    return false

def schemeEnd (bytes : Array Char) : Except OffsetFault (Option Nat) := do
  match ← schemeLength bytes with
  | none => return none
  | some colon => return some (if ← slashesAfter bytes colon then colon + 3 else colon + 1)

/-- The offset after the user's part of an authority that begins at `start`. -/
def userEnd (bytes : Array Char) (start : Nat) : Except OffsetFault Nat := do
  let stop ← seek (fun c => c = '@' || endsAuthority c) bytes start (bytes.size - start)
  return if bytes[stop]? = some '@' then stop + 1 else start

/-- The offset after a host that begins at `start`. A host in brackets must be closed. -/
def hostEnd (bytes : Array Char) (start : Nat) : Except OffsetFault (Option Nat) := do
  if bytes[start]? = some '[' then
    let rest ← bytesBetween bytes start bytes.size
    return (rest.findIdx? (· = ']')).map fun close => start + close + 1
  else
    return some (← seek endsHost bytes start (bytes.size - start))

def hostPosition (url : String) : Except OffsetFault (Option (Nat × Nat)) := do
  let bytes := byteChars url
  match ← schemeEnd bytes with
  | none => return none
  | some first =>
    let opening ← textBetween url 0 first
    if ['/', '/'].isSuffixOf opening.toList then
      let start ← userEnd bytes first
      return (← hostEnd bytes start).map fun stop => (start, stop)
    else
      return none

def scheme (url : String) : Except OffsetFault (Option String) := do
  match ← schemeLength (byteChars url) with
  | none => return none
  | some colon => return some (← textBetween url 0 colon)

def host (url : String) : Except OffsetFault (Option String) := do
  match ← hostPosition url with
  | none => return none
  | some (start, stop) =>
    if start = stop then return none
    return some (← textBetween url start stop)

end RequestFilter.Url.Scan
