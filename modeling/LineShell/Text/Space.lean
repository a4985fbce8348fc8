/-!
White space: the blank, the controls that move on, and the separators of other scripts.
-/

namespace LineShell.Text

/-- White space. -/
def isSpace (c : Char) : Bool :=
  c == ' ' || ('\t' ≤ c && c ≤ '\r') || c == '\u0085' || c == '\u00A0' || c == '\u1680' ||
    ('\u2000' ≤ c && c ≤ '\u200A') || c == '\u2028' || c == '\u2029' || c == '\u202F' ||
    c == '\u205F' || c == '\u3000'

/-- The characters without white space at their start. -/
def trimStart (cs : List Char) : List Char := cs.dropWhile isSpace

/-- The characters without white space at their end. -/
def trimEnd (cs : List Char) : List Char := (cs.reverse.dropWhile isSpace).reverse

/-- The characters without white space at either end. -/
def trim (cs : List Char) : List Char := trimStart (trimEnd cs)

end LineShell.Text
