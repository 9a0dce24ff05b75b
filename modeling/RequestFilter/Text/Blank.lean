/-!
Blank characters, and cutting text at them: words, trimming and lines.
-/

set_option autoImplicit false

namespace RequestFilter.Text

/-- The characters with the property White_Space. -/
def isBlank (c : Char) : Bool :=
  let n := c.toNat
  (0x09 ≤ n && n ≤ 0x0D) || n == 0x20 || n == 0x85 || n == 0xA0 || n == 0x1680 ||
    (0x2000 ≤ n && n ≤ 0x200A) || n == 0x2028 || n == 0x2029 || n == 0x202F || n == 0x205F ||
    n == 0x3000

def consWord (w : List Char) (ws : List (List Char)) : List (List Char) :=
  if w.isEmpty then ws else w :: ws

/-- The letters before the first blank, and the words after it. -/
def headWord : List Char → List Char × List (List Char)
  | [] => ([], [])
  | c :: cs =>
    let (w, ws) := headWord cs
    if isBlank c then ([], consWord w ws) else (c :: w, ws)

/-- The longest runs without a blank, in order. -/
def words (cs : List Char) : List (List Char) :=
  let (w, ws) := headWord cs
  consWord w ws

def trimLeft (cs : List Char) : List Char := cs.dropWhile isBlank

def trimRight (cs : List Char) : List Char := (cs.reverse.dropWhile isBlank).reverse

def trim (cs : List Char) : List Char := trimRight (trimLeft cs)

def withoutReturn (line : List Char) : List Char :=
  if line.getLast? = some '\r' then line.dropLast else line

/-- The pieces between line feeds; text that ends in a line feed ends in an empty piece. -/
def pieces : List Char → List (List Char)
  | [] => [[]]
  | c :: cs =>
    if c = '\n' then [] :: pieces cs
    else
      match pieces cs with
      | [] => [[c]]
      | l :: ls => (c :: l) :: ls

/-- The lines of a text. A line ends at a line feed, with a carriage return before it or not, or
at the end of the text; an unfinished last line keeps its carriage return. -/
def lines (cs : List Char) : List (List Char) :=
  let ps := pieces cs
  let done := ps.dropLast.map withoutReturn
  match ps.getLast? with
  | some (c :: l) => done ++ [c :: l]
  | _ => done

end RequestFilter.Text
