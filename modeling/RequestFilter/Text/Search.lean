/-!
One text inside another.
-/

set_option autoImplicit false

namespace RequestFilter.Text

/-- Whether `needle` stands somewhere in the text, without a gap. -/
def hasInfix (needle : List Char) : List Char → Bool
  | [] => needle.isEmpty
  | c :: cs => needle.isPrefixOf (c :: cs) || hasInfix needle cs

def holds (text needle : String) : Bool := hasInfix needle.toList text.toList

/-- The text before the first `mark` and the text after it. -/
def splitAt? (mark : Char) : List Char → Option (List Char × List Char)
  | [] => none
  | c :: cs =>
    if c = mark then some ([], cs)
    else (splitAt? mark cs).map fun (before, after) => (c :: before, after)

end RequestFilter.Text
