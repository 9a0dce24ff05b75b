import RequestFilter.Pattern.Property

/-!
Reading a pattern from its text.

The text is read from left to right by a machine that holds the open groups. Flags such as `(?i)`
act from where they stand to the end of their group, so each part is given its meaning under the
flags of its place. A pattern is refused if its text is malformed, if a part cannot be had under its
flags, if its parts are nested too deep, or if it is too large with its repetitions written out. The
last is decided by an estimate of its size.
-/

set_option autoImplicit false

namespace RequestFilter.Pattern

/-! ### Flags -/

structure Flags where
  caseless : Bool
  multiLine : Bool
  dotAll : Bool
  unicode : Bool
  crlf : Bool
  /-- Blanks and comments between the parts do not matter. -/
  spaced : Bool
  deriving DecidableEq

namespace Flags

def initial : Flags := ⟨false, false, false, true, false, false⟩

/-- The letters of flags. The flag `U`, which makes repetitions prefer few, changes no match. -/
def letters : List Char := ['i', 'm', 's', 'U', 'u', 'R', 'x']

def set (f : Flags) (letter : Char) (on : Bool) : Flags :=
  match letter with
  | 'i' => { f with caseless := on }
  | 'm' => { f with multiLine := on }
  | 's' => { f with dotAll := on }
  | 'u' => { f with unicode := on }
  | 'R' => { f with crlf := on }
  | 'x' => { f with spaced := on }
  | _ => f

end Flags

/-! ### Parts with their depth -/

def maxDepth : Nat := 250

/-- A part of a pattern, how deep its own parts are nested, and whether it can be repeated. -/
structure Piece where
  pattern : Pattern
  depth : Nat
  repeatable : Bool

def depthOf (ps : List Piece) : Nat := ps.foldl (fun d p => max d p.depth) 0

def Piece.sequence : List Piece → Piece
  | [] => ⟨.empty, 0, false⟩
  | [p] => p
  | p :: ps => ⟨ps.foldl (fun q p => .seq q p.pattern) p.pattern, depthOf (p :: ps) + 1, true⟩

def Piece.choice : List Piece → Piece
  | [] => ⟨.empty, 0, false⟩
  | [p] => p
  | p :: ps => ⟨ps.foldl (fun q p => .alt q p.pattern) p.pattern, depthOf (p :: ps) + 1, true⟩

structure ClassPiece where
  set : CharClass
  depth : Nat

def ClassPiece.union : List ClassPiece → ClassPiece
  | [] => ⟨unionAll [], 0⟩
  | [p] => p
  | ps => ⟨unionAll (ps.map ClassPiece.set), ps.foldl (fun d p => max d p.depth) 0 + 1⟩

/-! ### Blanks and comments -/

def skipBetween : Bool → List Char → List Char
  | _, [] => []
  | true, c :: cs => skipBetween (c ≠ '\n') cs
  | false, c :: cs =>
    if Text.isBlank c then skipBetween false cs
    else if c = '#' then skipBetween true cs
    else c :: cs

def skip (flags : Flags) (cs : List Char) : List Char :=
  if flags.spaced then skipBetween false cs else cs

/-! ### Escapes -/

inductive Atom
  /-- A character; `byte` says that it is written as two hexadecimal digits. -/
  | literal (c : Char) (byte : Bool)
  | set (p : CharClass)
  | condition (l : Look)

def isHex (c : Char) : Bool := c.isDigit || between 'a' 'f' c || between 'A' 'F' c

def hexValue (digits : List Char) : Nat :=
  digits.foldl (fun n c => n * 16 +
    if c.isDigit then c.toNat - '0'.toNat else c.toLower.toNat - 'a'.toNat + 10) 0

def charOf? (n : Nat) : Option Char := if n.isValidChar then some (.ofNat n) else none

def readHexDigits (flags : Flags) : Nat → List Char → Option (List Char × List Char)
  | 0, cs => some ([], cs)
  | n + 1, c :: cs =>
    if isHex c then
      (readHexDigits flags n (skip flags cs)).map fun (ds, rest) => (c :: ds, rest)
    else none
  | _ + 1, [] => none

def readBraced (flags : Flags) : Nat → List Char → Option (List Char × List Char)
  | 0, _ => none
  | fuel + 1, cs =>
    match skip flags cs with
    | [] => none
    | '}' :: rest => some ([], rest)
    | c :: rest => (readBraced flags fuel rest).map fun (ds, rest) => (c :: ds, rest)

def readHex (flags : Flags) (width : Nat) (cs : List Char) : Option (Atom × List Char) :=
  match skip flags cs with
  | '{' :: cs => do
    let (digits, rest) ← readBraced flags (cs.length + 1) cs
    if digits.isEmpty ∨ !digits.all isHex then none
    else (charOf? (hexValue digits)).map fun c => (.literal c false, skip flags rest)
  | cs => do
    let (digits, rest) ← readHexDigits flags width cs
    (charOf? (hexValue digits)).map fun c => (.literal c (width == 2), rest)

def namedProperty? (text : List Char) : Option CharClass :=
  match splitAtMark text with
  | some (name, value) => propertyValue? name value
  | none => property? text
where
  splitAtMark (text : List Char) : Option (List Char × List Char) :=
    splitUnequal text <|> splitOn ':' text <|> splitOn '=' text
  splitUnequal : List Char → Option (List Char × List Char)
    | [] => none
    | '!' :: '=' :: cs => some ([], cs)
    | c :: cs => (splitUnequal cs).map fun (a, b) => (c :: a, b)
  splitOn (mark : Char) (text : List Char) : Option (List Char × List Char) :=
    match text.span (· ≠ mark) with
    | (a, _ :: b) => some (a, b)
    | _ => none

def readProperty (flags : Flags) (negative : Bool) (cs : List Char) : Option (Atom × List Char) := do
  let (text, rest) ← match skip flags cs with
    | '{' :: cs => readBraced flags (cs.length + 1) cs
    | '\\' :: _ => none
    | c :: cs => some ([c], skip flags cs)
    | [] => none
  let set ← namedProperty? text
  let set := if flags.caseless then fold true set else set
  if flags.unicode then some (.set (if negative then complement set else set), rest) else none

/-- The class of one of the letters `d`, `s` and `w`, or of its capital for the complement, which
holds characters beyond ASCII and is not to be had without Unicode. -/
def perlClass (flags : Flags) (letter : Char) : Option CharClass :=
  let set : CharClass := match letter.toLower with
    | 'd' => if flags.unicode then digits else ofAscii 1 Char.isDigit
    | 's' => if flags.unicode then blanks else ofAscii 2 isAsciiBlank
    | _ => if flags.unicode then words else ofAscii 4 isAsciiWord
  if letter.isLower then some set
  else if flags.unicode then some (complement set)
  else none

/-- Whether a backslash makes a character stand for itself: all of ASCII but letters, digits and
angle brackets. -/
def isEscapable (c : Char) : Bool := c.toNat < 128 && !c.isAlphanum && c ≠ '<' && c ≠ '>'

def boundary? : String → Option Boundary
  | "start" => some .start
  | "end" => some .stop
  | "start-half" => some .startHalf
  | "end-half" => some .stopHalf
  | _ => none

/-- A word boundary, after its letter. Braces after it that begin with a letter or a dash must hold
the name of a boundary. -/
def readBoundary (flags : Flags) (cs : List Char) : Option (Atom × List Char) :=
  let ascii := !flags.unicode
  match cs with
  | '{' :: rest =>
    match skip flags rest with
    | [] => none
    | c :: _ =>
      if c.isAlpha || c = '-' then do
        let (name, rest) ← readBraced flags (rest.length + 1) rest
        (boundary? (.ofList name)).map fun b => (.condition (.word ascii b), rest)
      else some (.condition (.word ascii .any), cs)
  | cs => some (.condition (.word ascii .any), cs)

def readEscape (flags : Flags) : List Char → Option (Atom × List Char)
  | [] => none
  | c :: cs =>
    if isEscapable c then some (.literal c false, cs)
    else
      match c with
      | 'x' => readHex flags 2 cs
      | 'u' => readHex flags 4 cs
      | 'U' => readHex flags 8 cs
      | 'p' => readProperty flags false cs
      | 'P' => readProperty flags true cs
      | 'a' => some (.literal '\x07' false, cs)
      | 'f' => some (.literal '\x0c' false, cs)
      | 't' => some (.literal '\t' false, cs)
      | 'n' => some (.literal '\n' false, cs)
      | 'r' => some (.literal '\r' false, cs)
      | 'v' => some (.literal '\x0b' false, cs)
      | 'A' => some (.condition .textStart, cs)
      | 'z' => some (.condition .textEnd, cs)
      | 'b' => readBoundary flags cs
      | 'B' => some (.condition (.word (!flags.unicode) .none), cs)
      | '<' => some (.condition (.word (!flags.unicode) .start), cs)
      | '>' => some (.condition (.word (!flags.unicode) .stop), cs)
      | _ =>
        if ['d', 's', 'w', 'D', 'S', 'W'].contains c then
          (perlClass flags c).map fun set => (.set set, cs)
        else none

/-! ### Classes in brackets -/

inductive ClassOp
  | both | notSecond | oneOnly
  deriving DecidableEq

/-- Two classes combined; without case both are first closed. -/
def ClassOp.apply (flags : Flags) (op : ClassOp) (p q : ClassPiece) : ClassPiece :=
  let close (s : CharClass) : CharClass := if flags.caseless then fold flags.unicode s else s
  let a := close p.set
  let b := close q.set
  let set : CharClass := match op with
    | .both => ⟨fun c => a c && b c, a.spans + b.spans, a.ascii || b.ascii⟩
    | .notSecond => ⟨fun c => a c && !b c, a.spans + b.spans, a.ascii⟩
    | .oneOnly => ⟨fun c => a c != b c, a.spans + b.spans, a.ascii && b.ascii⟩
  ⟨set, max p.depth q.depth + 1⟩

/-- A class in brackets that is being read: whether it is negated, the part before the last
operator, and the parts since then. -/
structure OpenClass where
  negative : Bool
  left : Option (ClassPiece × ClassOp)
  parts : List ClassPiece

namespace OpenClass

def push (k : OpenClass) (p : ClassPiece) : OpenClass := { k with parts := p :: k.parts }

def combined (flags : Flags) (k : OpenClass) : ClassPiece :=
  let right := ClassPiece.union k.parts.reverse
  match k.left with
  | none => right
  | some (left, op) => op.apply flags left right

def operator (flags : Flags) (k : OpenClass) (op : ClassOp) : OpenClass :=
  ⟨k.negative, some (k.combined flags, op), []⟩

/-- The class when its bracket is closed. Without Unicode only ASCII characters can be had, and so
no negation. -/
def close? (flags : Flags) (k : OpenClass) : Option ClassPiece :=
  let p := k.combined flags
  let set := if flags.caseless then fold flags.unicode p.set else p.set
  if k.negative then
    if flags.unicode then some ⟨complement set, p.depth + 1⟩ else none
  else some ⟨set, p.depth + 1⟩

end OpenClass

def classChar? (flags : Flags) : Atom → Option Char
  | .literal c _ => if flags.unicode || c.toNat < 128 then some c else none
  | _ => none

def readClassAtom (flags : Flags) : List Char → Option (Atom × List Char)
  | [] => none
  | '\\' :: cs => readEscape flags cs
  | c :: cs => some (.literal c false, cs)

/-- The character after a dash, looked for behind blanks and the first `#`. -/
def peekAfterDash (flags : Flags) (cs : List Char) : Option Char :=
  if flags.spaced then
    let rest := match cs.dropWhile Text.isBlank with
      | '#' :: rest => rest.dropWhile Text.isBlank
      | rest => rest
    (if rest.isEmpty then cs else rest).head?
  else cs.head?

def readRange (flags : Flags) (cs : List Char) : Option (ClassPiece × List Char) := do
  let (first, cs) ← readClassAtom flags cs
  let cs := skip flags cs
  let next ← cs.head?
  let after := peekAfterDash flags cs.tail
  if next ≠ '-' ∨ after = some ']' ∨ after = some '-' then
    match first with
    | .set p => some (⟨p, 0⟩, cs)
    | atom => (classChar? flags atom).map fun c => (⟨single c, 0⟩, cs)
  else
    let (last, cs) ← readClassAtom flags (skip flags cs.tail)
    let a ← classChar? flags first
    let b ← classChar? flags last
    if a ≤ b then some (⟨between a b, 0⟩, cs) else none

/-- A named ASCII class, after its opening bracket; the answer is nothing if there is none. -/
def readAsciiClass? (flags : Flags) : List Char → Option (Option ClassPiece × List Char)
  | ':' :: cs =>
    let (negative, cs) := match cs with
      | '^' :: cs => (true, cs)
      | cs => (false, cs)
    match cs.span (· ≠ ':') with
    | (name, ':' :: ']' :: rest) =>
      (asciiClass? (.ofList name)).map fun set =>
        let set := if flags.caseless then fold flags.unicode set else set
        if negative then (if flags.unicode then some ⟨complement set, 0⟩ else none, rest)
        else (some ⟨set, 0⟩, rest)
    | _ => none
  | _ => none

def readDashes (flags : Flags) : Nat → List Char → List ClassPiece × List Char
  | fuel + 1, '-' :: cs =>
    let (ps, rest) := readDashes flags fuel (skip flags cs)
    (⟨single '-', 0⟩ :: ps, rest)
  | _, cs => ([], cs)

/-- The start of a class, after its opening bracket: a negation, dashes, or else a closing bracket
that stands for itself. -/
def openClass (flags : Flags) (cs : List Char) : OpenClass × List Char :=
  let (negative, cs) := match skip flags cs with
    | '^' :: cs => (true, skip flags cs)
    | cs => (false, cs)
  match readDashes flags cs.length cs with
  | ([], ']' :: cs) => (⟨negative, none, [⟨single ']', 0⟩]⟩, skip flags cs)
  | (dashes, cs) => (⟨negative, none, dashes⟩, cs)

/-- The rest of a class. `outer` holds the classes around it, the innermost first. -/
def readClassFrom (flags : Flags) :
    Nat → List OpenClass → OpenClass → List Char → Option (ClassPiece × List Char)
  | 0, _, _, _ => none
  | fuel + 1, outer, k, cs =>
    match skip flags cs with
    | [] => none
    | '[' :: cs =>
      match readAsciiClass? flags cs with
      | some (some p, rest) => readClassFrom flags fuel outer (k.push p) rest
      | some (none, _) => none
      | none =>
        let (inner, rest) := openClass flags cs
        readClassFrom flags fuel (k :: outer) inner rest
    | ']' :: cs =>
      match k.close? flags, outer with
      | none, _ => none
      | some p, [] => some (p, cs)
      | some p, k :: outer => readClassFrom flags fuel outer (k.push p) cs
    | '&' :: '&' :: cs => readClassFrom flags fuel outer (k.operator flags .both) cs
    | '-' :: '-' :: cs => readClassFrom flags fuel outer (k.operator flags .notSecond) cs
    | '~' :: '~' :: cs => readClassFrom flags fuel outer (k.operator flags .oneOnly) cs
    | cs =>
      match readRange flags cs with
      | some (p, rest) => readClassFrom flags fuel outer (k.push p) rest
      | none => none

def readClass (flags : Flags) (cs : List Char) : Option (ClassPiece × List Char) :=
  let (k, rest) := openClass flags cs
  readClassFrom flags (rest.length + 1) [] k rest

/-! ### Groups -/

/-- A group that is open: the flags outside, and its earlier branches and the parts of the branch
before it outside, the last first. -/
structure Group where
  flags : Flags
  branches : List Piece
  parts : List Piece

/-- The state of reading: the flags, the names of groups, the open groups with the innermost first,
and the branches and parts of the innermost, the last first. -/
structure Reader where
  flags : Flags
  names : List (List Char)
  groups : List Group
  branches : List Piece
  parts : List Piece

namespace Reader

def initial : Reader := ⟨.initial, [], [], [], []⟩

def push (r : Reader) (p : Piece) : Reader := { r with parts := p :: r.parts }

def pushLeaf (r : Reader) (p : Pattern) : Reader := r.push ⟨p, 0, true⟩

def openGroup (r : Reader) (flags : Flags) : Reader :=
  { r with
    flags := flags
    groups := ⟨r.flags, r.branches, r.parts⟩ :: r.groups
    branches := []
    parts := [] }

def endBranch (r : Reader) : Reader :=
  { r with branches := Piece.sequence r.parts.reverse :: r.branches, parts := [] }

def content (r : Reader) : Piece := Piece.choice r.endBranch.branches.reverse

def closeGroup? (r : Reader) : Option Reader :=
  match r.groups with
  | [] => none
  | g :: groups =>
    some (Reader.push ⟨g.flags, r.names, groups, g.branches, g.parts⟩
      ⟨r.content.pattern, r.content.depth + 1, true⟩)

def repeatLast? (r : Reader) (least : Nat) (most : Option Nat) : Option Reader :=
  match r.parts with
  | p :: parts =>
    if p.repeatable then
      some { r with parts := ⟨.repeated least most p.pattern, p.depth + 1, true⟩ :: parts }
    else none
  | [] => none

end Reader

def readName? (cs : List Char) : Option (List Char × List Char) :=
  match cs.span (· ≠ '>') with
  | (c :: name, '>' :: rest) =>
    if isNameStart c && name.all isNameChar then some (c :: name, rest) else none
  | _ => none
where
  isAlphabetic : CharClass := (lookup? Table.binary "alphabetic").getD (unionAll [])
  isNumeric : CharClass := (generalCategory? "n").getD (unionAll [])
  isNameStart (c : Char) : Bool := c = '_' || isAlphabetic c
  isNameChar (c : Char) : Bool :=
    c = '_' || c = '.' || c = '[' || c = ']' || isAlphabetic c || isNumeric c

/-- The flags of a group, up to a colon or the closing parenthesis. A letter may come once, after a
dash to switch its flag off, and the dash may come once and not last. -/
def readFlags? : Bool → List Char → Flags → List Char → Option (Flags × Bool × List Char)
  | _, _, _, [] => none
  | off, seen, flags, c :: cs =>
    if c = ':' ∨ c = ')' then
      if seen.head? = some '-' then none else some (flags, seen.isEmpty, c :: cs)
    else if c = '-' then if off then none else readFlags? true ('-' :: seen) flags cs
    else if Flags.letters.contains c ∧ !seen.contains c then
      readFlags? off (c :: seen) (flags.set c !off) cs
    else none

def lookarounds : List (List Char) := [['?', '='], ['?', '!'], ['?', '<', '='], ['?', '<', '!']]

def readGroup? (r : Reader) (cs : List Char) : Option (Reader × List Char) :=
  let cs := skip r.flags cs
  if lookarounds.any fun l => l.isPrefixOf cs then none
  else
    match cs with
    | '?' :: 'P' :: '<' :: cs => named cs
    | '?' :: '<' :: cs => named cs
    | '?' :: cs =>
      match readFlags? false [] r.flags cs with
      | some (flags, bare, ')' :: rest) =>
        if bare then none
        else some (Reader.push { r with flags := flags } ⟨.empty, 0, false⟩, rest)
      | some (flags, _, _ :: rest) => some (r.openGroup flags, rest)
      | _ => none
    | cs => some (r.openGroup r.flags, cs)
where
  named (cs : List Char) : Option (Reader × List Char) := do
    let (name, rest) ← readName? cs
    if r.names.contains name then none
    else some (Reader.openGroup { r with names := name :: r.names } r.flags, rest)

/-! ### Repetitions -/

/-- The question mark that makes a repetition prefer few changes no match. -/
def skipLazy : List Char → List Char
  | '?' :: cs => cs
  | cs => cs

def readDigits (flags : Flags) : Nat → List Char → List Char × List Char
  | fuel + 1, c :: cs =>
    if c.isDigit then
      let (ds, rest) := readDigits flags fuel (skip flags cs)
      (c :: ds, rest)
    else ([], c :: cs)
  | _, cs => ([], cs)

def readCount? (flags : Flags) (cs : List Char) : Option (Nat × List Char) :=
  let cs := cs.dropWhile Text.isBlank
  match readDigits flags cs.length cs with
  | ([], _) => none
  | (ds, rest) =>
    let n := ds.foldl (fun n c => n * 10 + (c.toNat - '0'.toNat)) 0
    if n < 0x100000000 then some (n, skipBlanks (rest.length + 1) rest) else none
where
  skipBlanks : Nat → List Char → List Char
    | fuel + 1, c :: cs => if Text.isBlank c then skipBlanks fuel (skip flags cs) else c :: cs
    | _, cs => cs

def readBounds? (flags : Flags) (cs : List Char) : Option (Nat × Option Nat × List Char) := do
  let (least, cs) ← readCount? flags (skip flags cs)
  match cs with
  | '}' :: rest => some (least, some least, rest)
  | ',' :: cs =>
    match skip flags cs with
    | '}' :: rest => some (least, none, rest)
    | cs =>
      let (most, cs) ← readCount? flags cs
      match cs with
      | '}' :: rest => if least ≤ most then some (least, some most, rest) else none
      | _ => none
  | _ => none

/-! ### Patterns -/

/-- Any one character, but for those that end a line unless the flags say so. It is not to be had
without Unicode. -/
def dot? (flags : Flags) : Option CharClass :=
  if !flags.unicode then none
  else if flags.dotAll then some all
  else if flags.crlf then some (complement (unionAll [single '\n', single '\r']))
  else some (complement (single '\n'))

def caret (flags : Flags) : Look := if flags.multiLine then .lineStart flags.crlf else .textStart

def dollar (flags : Flags) : Look := if flags.multiLine then .lineEnd flags.crlf else .textEnd

/-- The pattern of an atom. Without Unicode a character given as two hexadecimal digits must be
ASCII, and only ASCII letters have case. -/
def atomPattern? (flags : Flags) : Atom → Option Pattern
  | .literal c byte =>
    if byte && !flags.unicode && 128 ≤ c.toNat then none
    else if flags.caseless then
      let same := if flags.unicode then variants c else asciiVariants c
      some (.one (unionAll (same.map single)))
    else some (.one (single c))
  | .set p => some (.one p)
  | .condition l => some (.look l)

def readPart? (r : Reader) (c : Char) (cs : List Char) : Option (Reader × List Char) :=
  match c with
  | '(' => readGroup? r cs
  | ')' => r.closeGroup?.map (·, cs)
  | '|' => some (r.endBranch, cs)
  | '[' =>
    (readClass r.flags cs).map fun (p, rest) => (r.push ⟨.one p.set, p.depth, true⟩, rest)
  | '?' => (r.repeatLast? 0 (some 1)).map (·, skipLazy cs)
  | '*' => (r.repeatLast? 0 none).map (·, skipLazy cs)
  | '+' => (r.repeatLast? 1 none).map (·, skipLazy cs)
  | '{' => do
    let (least, most, rest) ← readBounds? r.flags cs
    (r.repeatLast? least most).map (·, skipLazy (skip r.flags rest))
  | '.' => (dot? r.flags).map fun p => (r.pushLeaf (.one p), cs)
  | '^' => some (r.pushLeaf (.look (caret r.flags)), cs)
  | '$' => some (r.pushLeaf (.look (dollar r.flags)), cs)
  | '\\' => do
    let (atom, rest) ← readEscape r.flags cs
    (atomPattern? r.flags atom).map fun p => (r.pushLeaf p, rest)
  | c => (atomPattern? r.flags (.literal c false)).map fun p => (r.pushLeaf p, cs)

def readFrom? : Nat → Reader → List Char → Option Reader
  | 0, _, _ => none
  | fuel + 1, r, cs =>
    match skip r.flags cs with
    | [] => some r
    | c :: cs =>
      match readPart? r c cs with
      | some (r, rest) => readFrom? fuel r rest
      | none => none

def maxWeight : Nat := 10 * 0x100000

/-- The pattern of a text, unless the text is refused. -/
def ofText? (text : String) : Option Pattern := do
  let cs := text.toList
  let r ← readFrom? (cs.length + 1) .initial cs
  let whole := r.content
  if !r.groups.isEmpty ∨ maxDepth < whole.depth ∨ maxWeight < whole.pattern.weight then none
  else some whole.pattern

end RequestFilter.Pattern
