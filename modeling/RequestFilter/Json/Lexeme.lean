import RequestFilter.Json.Basic
import RequestFilter.Json.Place
import RequestFilter.Text.Offset

/-!
The smallest parts of a JSON text: space, the letters of a word, numerals and strings.

A string is read in one of two ways. `skipString` finds its end and checks the form of its escapes,
which is all that a skipped value needs. `readString` also gives its content, for which the escapes
of a surrogate pair must stand together.
-/

set_option autoImplicit false

namespace RequestFilter.Json

/-- What reading one part of a text gives: the part and the text after it. -/
abbrev Reading (α : Type) := Except Fault (α × List Char)

def isSpace (c : Char) : Bool := c = ' ' || c = '\n' || c = '\t' || c = '\r'

def skipSpace (cs : List Char) : List Char := cs.dropWhile isSpace

def skipLetters : List Char → List Char → Except Fault (List Char)
  | [], cs => .ok cs
  | _ :: _, [] => .error (.found .endInValue (.before []))
  | l :: ls, c :: cs =>
    if l = c then skipLetters ls cs else .error (.found .expectedIdent (.peek (c :: cs)))

/-! ### Numerals -/

/-- A numeral: its sign, its digits before and after a point, and its exponent's sign and digits. -/
structure Numeral where
  negative : Bool
  whole : List Char
  fraction : Option (List Char)
  exponent : Option (Bool × List Char)
  deriving DecidableEq

namespace Numeral

def digits (cs : List Char) : List Char × List Char := cs.span Char.isDigit

/-- The fault of a text that does not go on with a digit. `atEnd` is the cause where it ends. -/
def noDigit (atEnd : Cause) : List Char → Fault
  | [] => .found atEnd (.before [])
  | cs => .found .invalidNumber (.peek cs)

/-- The digits before the point: a single zero, or digits that do not begin with a zero. -/
def readWhole (atEnd : Cause) : List Char → Reading (List Char)
  | '0' :: cs =>
    match cs with
    | c :: _ => if c.isDigit then .error (.found .invalidNumber (.peek cs)) else .ok (['0'], cs)
    | [] => .ok (['0'], cs)
  | c :: cs =>
    if c.isDigit then .ok (digits (c :: cs)) else .error (noDigit atEnd (c :: cs))
  | [] => .error (noDigit atEnd [])

def readFraction (atEnd : Cause) : List Char → Reading (Option (List Char))
  | '.' :: cs =>
    match digits cs with
    | ([], rest) => .error (noDigit atEnd rest)
    | (ds, rest) => .ok (some ds, rest)
  | cs => .ok (none, cs)

def readSign : List Char → Bool × List Char
  | '-' :: cs => (true, cs)
  | '+' :: cs => (false, cs)
  | cs => (false, cs)

def readExponent (atEnd : Cause) : List Char → Reading (Option (Bool × List Char))
  | c :: cs =>
    if c = 'e' ∨ c = 'E' then
      let (negative, cs) := readSign cs
      match digits cs with
      | ([], rest) => .error (noDigit atEnd rest)
      | (ds, rest) => .ok (some (negative, ds), rest)
    else .ok (none, c :: cs)
  | [] => .ok (none, [])

def read (atEnd : Cause) (cs : List Char) : Except Fault (Numeral × List Char) := do
  let (negative, cs) := match cs with
    | '-' :: cs => (true, cs)
    | cs => (false, cs)
  let (whole, cs) ← readWhole atEnd cs
  let (fraction, cs) ← readFraction atEnd cs
  let (exponent, cs) ← readExponent atEnd cs
  return (⟨negative, whole, fraction, exponent⟩, cs)

def power (n : Numeral) : Int :=
  match n.exponent with
  | none => 0
  | some (negative, ds) =>
    if negative then -(natOfDecimalDigits ds : Int) else natOfDecimalDigits ds

/-- Digits put behind a significand as long as 64 bits hold it, and the digits that are left. -/
def collect (significand : Nat) : List Char → Nat × List Char
  | [] => (significand, [])
  | c :: cs =>
    let next := significand * 10 + (c.toNat - '0'.toNat)
    if next < 0x10000000000000000 then collect next cs else (significand, c :: cs)

/-- The magnitude as far as 64 bits hold its digits. Digits before the point that are left count as
zeros, and digits after it that are left do not count. -/
def taken (n : Numeral) : Decimal :=
  let fraction := n.fraction.getD []
  let (whole, later) := collect 0 n.whole
  let (significand, ignored) := collect whole fraction
  ⟨significand, n.power - fraction.length + later.length + ignored.length⟩

def double (n : Numeral) : Double := if n.negative then -n.taken.scaled else n.taken.scaled

/-- The number that a numeral is read as. Digits alone are a whole number if 64 bits hold them; a
negative zero is not a whole number. -/
def number (n : Numeral) : Number :=
  let m := natOfDecimalDigits n.whole
  if n.fraction.isNone ∧ n.exponent.isNone then
    if n.negative then
      if 0 < m ∧ m ≤ 0x8000000000000000 then .negative (-m) else .double n.double
    else if m < 0x10000000000000000 then .natural m
    else .double n.double
  else .double n.double

def exponentLimit : Nat := 0x7FFFFFFF

/-- How many of an exponent's digits are read: those up to the one that passes the limit. -/
def digitsRead (ds : List Char) : Nat :=
  match (List.range ds.length).find? fun k =>
      exponentLimit < natOfDecimalDigits (ds.take (k + 1)) with
  | some k => k + 1
  | none => ds.length

/-- The place where a numeral turns out to be too large: its end, unless its exponent passes the
limit before. -/
def rangePlace (n : Numeral) (rest : List Char) : Place :=
  match n.exponent with
  | some (_, ds) => .before (ds.drop (digitsRead ds) ++ rest)
  | none => .before rest

end Numeral

/-- The number at the start of a text. It must be finite. -/
def readNumber (cs : List Char) : Except Fault (Number × List Char) := do
  let (numeral, rest) ← Numeral.read .endInValue cs
  let number := numeral.number
  if number.toDouble.isFinite then return (number, rest)
  else throw (.found .numberOutOfRange (numeral.rangePlace rest))

/-! ### Strings -/

def escaped? : Char → Option Char
  | '"' => some '"'
  | '\\' => some '\\'
  | '/' => some '/'
  | 'b' => some '\x08'
  | 'f' => some '\x0c'
  | 'n' => some '\n'
  | 'r' => some '\r'
  | 't' => some '\t'
  | _ => none

def hexDigit? (c : Char) : Option Nat := (digitValue? c).filter (· < 16)

/-- The fault of a text that does not go on with four hexadecimal digits, if it does not. -/
def hexFault? (cs : List Char) : Option Fault :=
  let next := cs.take 4
  if Text.byteLength next < 4 then some (.found .endInString (.before []))
  else if next.all fun c => (hexDigit? c).isSome then none
  else some (.found .invalidEscape (.past 4 cs))

/-- What of a string comes next: plain characters, the letter of an escape, or hexadecimal digits of
which `left + 1` are left. -/
inductive SkipState
  | plain
  | escape
  | hex (left : Nat)

def skipStringFrom : SkipState → List Char → Except Fault (List Char)
  | _, [] => .error (.found .endInString (.before []))
  | .plain, c :: cs =>
    if c = '"' then .ok cs
    else if c = '\\' then skipStringFrom .escape cs
    else if c.toNat < 0x20 then .error (.found .controlCharacter (.before (c :: cs)))
    else skipStringFrom .plain cs
  | .escape, c :: cs =>
    if c = 'u' then
      match hexFault? cs with
      | some f => .error f
      | none => skipStringFrom (.hex 3) cs
    else if (escaped? c).isSome then skipStringFrom .plain cs
    else .error (.found .invalidEscape (.peek (c :: cs)))
  | .hex 0, _ :: cs => skipStringFrom .plain cs
  | .hex (n + 1), _ :: cs => skipStringFrom (.hex n) cs

def skipString (cs : List Char) : Except Fault (List Char) := skipStringFrom .plain cs

/-- What of a string comes next. Beside the states of skipping, a leading surrogate `high` waits for
a backslash and a `u`, and is kept while the digits of its partner are read. -/
inductive ReadState
  | plain
  | escape
  | hex (high : Option Nat) (left value : Nat)
  | backslash (high : Nat)
  | letter (high : Nat)

def pairValue (high low : Nat) : Nat := (high - 0xD800) * 0x400 + (low - 0xDC00) + 0x10000

def isHigh (n : Nat) : Bool := 0xD800 ≤ n && n ≤ 0xDBFF

def isLow (n : Nat) : Bool := 0xDC00 ≤ n && n ≤ 0xDFFF

def consContent (c : Char) : Reading (List Char) → Reading (List Char) :=
  Except.map fun (content, rest) => (c :: content, rest)

def readStringFrom : ReadState → List Char → Reading (List Char)
  | _, [] => .error (.found .endInString (.before []))
  | .plain, c :: cs =>
    if c = '"' then .ok ([], cs)
    else if c = '\\' then readStringFrom .escape cs
    else if c.toNat < 0x20 then .error (.found .controlCharacter (.peek (c :: cs)))
    else consContent c (readStringFrom .plain cs)
  | .escape, c :: cs =>
    if c = 'u' then
      match hexFault? cs with
      | some f => .error f
      | none => readStringFrom (.hex none 3 0) cs
    else
      match escaped? c with
      | some d => consContent d (readStringFrom .plain cs)
      | none => .error (.found .invalidEscape (.peek (c :: cs)))
  | .hex high (n + 1) value, c :: cs =>
    readStringFrom (.hex high n (value * 16 + (hexDigit? c).getD 0)) cs
  | .hex none 0 value, c :: cs =>
    let code := value * 16 + (hexDigit? c).getD 0
    if isLow code then .error (.found .loneSurrogate (.before cs))
    else if isHigh code then readStringFrom (.backslash code) cs
    else consContent (Char.ofNat code) (readStringFrom .plain cs)
  | .hex (some high) 0 value, c :: cs =>
    let code := value * 16 + (hexDigit? c).getD 0
    if isLow code then consContent (Char.ofNat (pairValue high code)) (readStringFrom .plain cs)
    else .error (.found .loneSurrogate (.before cs))
  | .backslash high, c :: cs =>
    if c = '\\' then readStringFrom (.letter high) cs
    else .error (.found .endInHexEscape (.peek (c :: cs)))
  | .letter high, c :: cs =>
    if c = 'u' then
      match hexFault? cs with
      | some f => .error f
      | none => readStringFrom (.hex (some high) 3 0) cs
    else .error (.found .endInHexEscape (.peek (c :: cs)))

/-- The content of a string and the text after it, given the text after its opening quote. -/
def readString (cs : List Char) : Reading String :=
  (readStringFrom .plain cs).map fun (content, rest) => (.ofList content, rest)

end RequestFilter.Json
