import RequestFilter.Pattern.Basic
import RequestFilter.Pattern.Table.Age
import RequestFilter.Pattern.Table.Binary
import RequestFilter.Pattern.Table.Folding
import RequestFilter.Pattern.Table.GeneralCategory
import RequestFilter.Pattern.Table.Script
import RequestFilter.Pattern.Table.ScriptExtensions
import RequestFilter.Pattern.Table.Segmentation
import RequestFilter.Pattern.Table.Word
import RequestFilter.Text.Blank
import RequestFilter.Text.Span

/-!
Classes of characters by their properties, and what characters are the same without case.

A property is looked up by a name in which case, spaces, dashes, underscores and a leading `is` do
not matter.
-/

set_option autoImplicit false

namespace RequestFilter.Pattern

open Text (Span)

def ofSpans (spans : List Span) : CharClass :=
  ⟨fun c => Span.anyHolds spans c.toNat, spans.length, spans.all fun s => s.last < 128⟩

def single (c : Char) : CharClass := ⟨(· == c), 1, c.toNat < 128⟩

def unionAll (ps : List CharClass) : CharClass :=
  ⟨fun c => ps.any fun p => p c, ps.foldl (fun n p => n + p.spans) 0, ps.all CharClass.ascii⟩

/-- The characters that a class does not hold. The spans of whole planes count for a dozen. -/
def complement (p : CharClass) : CharClass := ⟨fun c => !p c, p.spans + 12, false⟩

def between (a b : Char) : CharClass := ⟨fun c => a ≤ c && c ≤ b, 1, b.toNat < 128⟩

def all : CharClass := complement (unionAll [])

def ofAscii (spans : Nat) (holds : Char → Bool) : CharClass := ⟨holds, spans, true⟩

/-! ### Words, digits and blanks -/

/-- The spans of the characters of words. -/
def wordSpans : List Span := Span.ofLines Table.wordText

def isWord (c : Char) : Bool :=
  if c.toNat < 128 then c.isAlphanum || c = '_' else Span.anyHolds wordSpans c.toNat

def words : CharClass := ⟨isWord, wordSpans.length, false⟩

def blanks : CharClass := ⟨Text.isBlank, 10, false⟩

def isAsciiWord (c : Char) : Bool := c.isAlphanum || c = '_'

def isAsciiBlank (c : Char) : Bool := c = ' ' || ('\x09' ≤ c && c ≤ '\x0d')

/-! ### Properties -/

def lookup? (table : List (List String × List String)) (name : String) : Option CharClass :=
  (table.find? fun e => e.1.contains name).map fun e => ofSpans (Span.ofLines e.2)

def digits : CharClass := (lookup? Table.generalCategory "nd").getD (unionAll [])

/-- The values of General_Category that are made of others. -/
def groups : List (List String × List String) :=
  [(["l", "letter"], ["lu", "ll", "lt", "lm", "lo"]),
    (["lc", "casedletter"], ["lu", "ll", "lt"]),
    (["m", "mark", "combiningmark"], ["mn", "mc", "me"]),
    (["n", "number"], ["nd", "nl", "no"]),
    (["p", "punctuation", "punct"], ["pc", "pd", "ps", "pe", "pi", "pf", "po"]),
    (["s", "symbol"], ["sm", "sc", "sk", "so"]),
    (["z", "separator"], ["zs", "zl", "zp"]),
    (["c", "other"], ["cc", "cf", "cn", "co"])]

/-- The class of a value of General_Category, or of all, assigned or ASCII characters. -/
def generalCategory? (name : String) : Option CharClass :=
  if name = "any" then some all
  else if name = "ascii" then some (ofAscii 1 fun c => c.toNat < 128)
  else if name = "assigned" then (lookup? Table.generalCategory "cn").map complement
  else
    match groups.find? fun g => g.1.contains name with
    | some (_, parts) => some (unionAll (parts.filterMap (lookup? Table.generalCategory)))
    | none => lookup? Table.generalCategory name

def script? (name : String) : Option CharClass := lookup? Table.script name

/-- The class of the characters that a script uses. -/
def scriptExtensions? (name : String) : Option CharClass :=
  match Table.script.find? fun e => e.1.contains name with
  | some (names, lines) =>
    match names.findSome? fun n => lookup? Table.scriptExtensions n with
    | some set => some set
    | none => some (ofSpans (Span.ofLines lines))
  | none => none

/-- The class of the characters of a version and the versions before it. -/
def age? (name : String) : Option CharClass :=
  let (before, following) := Table.age.span fun e => !e.1.contains name
  match following with
  | [] => none
  | e :: _ => some (unionAll ((before ++ [e]).map fun e => ofSpans (Span.ofLines e.2)))

/-- The class of a value of a property that leaves one value for all other characters. -/
def segmentation? (table : List (List String × List String)) (name : String) : Option CharClass :=
  if name = "other" ∨ name = "xx" then
    some (complement (unionAll (table.map fun e => ofSpans (Span.ofLines e.2))))
  else lookup? table name

/-- A name without the parts that do not matter. The name `isc` keeps them. -/
def canonicalName (name : List Char) : String :=
  let bare := name.map Char.toLower
  let (marked, rest) := match bare with
    | 'i' :: 's' :: rest => (true, rest)
    | rest => (false, rest)
  let kept := rest.filter fun c => c ≠ ' ' && c ≠ '_' && c ≠ '-' && c.toNat < 128
  if marked ∧ kept = ['c'] then "isc" else .ofList kept

def categoryFirst : List String := ["cf", "sc", "lc"]

/-- The class of a property, a category or a script, in this order. -/
def property? (name : List Char) : Option CharClass :=
  let name := canonicalName name
  let binary := if categoryFirst.contains name then none else lookup? Table.binary name
  binary <|> generalCategory? name <|> script? name

def propertyValue? (name value : List Char) : Option CharClass :=
  let value := canonicalName value
  match canonicalName name with
  | "gc" | "generalcategory" => generalCategory? value
  | "sc" | "script" => script? value
  | "scx" | "scriptextensions" => scriptExtensions? value
  | "age" => age? value
  | "gcb" | "graphemeclusterbreak" => segmentation? Table.graphemeClusterBreak value
  | "wb" | "wordbreak" => segmentation? Table.wordBreak value
  | "sb" | "sentencebreak" => segmentation? Table.sentenceBreak value
  | _ => none

def asciiClass? : String → Option CharClass
  | "alnum" => some (ofAscii 3 Char.isAlphanum)
  | "alpha" => some (ofAscii 2 Char.isAlpha)
  | "ascii" => some (ofAscii 1 fun c => c.toNat < 128)
  | "blank" => some (ofAscii 2 fun c => c = ' ' || c = '\t')
  | "cntrl" => some (ofAscii 2 fun c => c.toNat < 0x20 || c.toNat = 0x7F)
  | "digit" => some (ofAscii 1 Char.isDigit)
  | "graph" => some (between '!' '~')
  | "lower" => some (ofAscii 1 Char.isLower)
  | "print" => some (between ' ' '~')
  | "punct" => some (ofAscii 4 fun c => between '!' '~' c && !c.isAlphanum)
  | "space" => some (ofAscii 2 isAsciiBlank)
  | "upper" => some (ofAscii 1 Char.isUpper)
  | "word" => some (ofAscii 4 isAsciiWord)
  | "xdigit" => some (ofAscii 3 fun c => c.isDigit || between 'A' 'F' c || between 'a' 'f' c)
  | _ => none

/-! ### Case -/

def tableVariants (n : Nat) : List Nat :=
  match Table.foldClasses.find? (·.contains n) with
  | some ns => ns
  | none =>
    match Table.foldPairs.find? (·.holds n) with
    | some r => [n, (n + r.offset).toNat]
    | none =>
      match (Table.foldPairs.map (partner n)).find? fun (m, r) => r.holds m with
      | some (m, _) => [m, n]
      | none => [n]
where
  partner (n : Nat) (r : Text.CaseRun) : Nat × Text.CaseRun := (((n : Int) - r.offset).toNat, r)

def asciiVariants (c : Char) : List Char :=
  if c.isAlpha then [c.toLower, c.toUpper] else [c]

/-- The characters that are the same as a given one without case, itself included. -/
def variants (c : Char) : List Char :=
  if c.toLower = 'k' ∨ c.toLower = 's' ∨ 128 ≤ c.toNat then (tableVariants c.toNat).map Char.ofNat
  else asciiVariants c

/-- The characters that are the same as one of a class. The letters `k` and `s` have variants beyond
ASCII. -/
def fold (unicode : Bool) (p : CharClass) : CharClass :=
  ⟨fun c => (if unicode then variants c else asciiVariants c).any p.holds, 2 * p.spans,
    p.ascii && !(unicode && (p 'k' || p 's' || p 'K' || p 'S'))⟩

end RequestFilter.Pattern
