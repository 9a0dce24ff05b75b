import RequestFilter.Text.CaseTable

/-!
Lower case. Each character has its lower form by itself, but for the capital sigma, whose form
depends on its neighbours: it becomes the final sigma where a character with case stands before it
and none after it, characters that are looked through left aside on both sides.
-/

set_option autoImplicit false

namespace RequestFilter.Text

def isCased (c : Char) : Bool := Span.anyHolds casedSpans c.toNat

/-- Whether a character is looked through when the neighbours of a sigma are sought. -/
def isCaseIgnorable (c : Char) : Bool := Span.anyHolds caseIgnorableSpans c.toNat

def lowerChar (c : Char) : List Char :=
  if c.toNat < 128 then [c.toLower]
  else if c = 'İ' then ['i', '\u0307']
  else
    match lowerRuns.find? (·.holds c.toNat) with
    | some r => [Char.ofNat (c.toNat + r.offset).toNat]
    | none => [c]

/-- Whether the first character that is not looked through has case. -/
def casedAhead (cs : List Char) : Bool :=
  match cs.dropWhile isCaseIgnorable with
  | [] => false
  | c :: _ => isCased c

/-- The lower form of a sigma between two texts; the one before it is given backwards. -/
def lowerSigma (before rest : List Char) : Char :=
  if casedAhead before && !casedAhead rest then 'ς' else 'σ'

/-- The lower form of a text that follows other text, which is given backwards. -/
def lowerAfter (before : List Char) : List Char → List Char
  | [] => []
  | c :: cs =>
    (if c = 'Σ' then [lowerSigma before cs] else lowerChar c) ++ lowerAfter (c :: before) cs

def lowerList (cs : List Char) : List Char := lowerAfter [] cs

def lower (s : String) : String := .ofList (lowerList s.toList)

def lowerAscii (s : String) : String := .ofList (s.toList.map Char.toLower)

end RequestFilter.Text
