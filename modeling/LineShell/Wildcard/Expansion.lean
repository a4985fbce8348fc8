import LineShell.Errno
import LineShell.Path
import LineShell.Wildcard.Matching

/-!
Expansion of a pattern word into the names of one directory that it matches. A name that is no text
or that begins with a dot never matches. The matches stand in ascending order, each as often as it is
listed. A word that is no pattern, and a directory that cannot be listed, give nothing but one error;
the first of these two is noticed first.
-/

namespace LineShell

/-- What listing a directory gave: its names in any order, or why there are none. -/
abbrev Listing := Except Fault (List Name)

/-- Why a word could not be expanded. -/
inductive ExpansionError where
  | unreadableDirectory (source : Fault)
  | invalidPattern (pattern : String) (source : PatternError)
  deriving DecidableEq, Repr

/-- The text of an error. -/
def ExpansionError.message : ExpansionError → String
  | .unreadableDirectory source => s!"cannot read working directory: {source.message}"
  | .invalidPattern pattern source => s!"invalid pattern `{pattern}`: {source.message}"

namespace Wildcard

/-- A word is expanded if it holds a star or a question mark; a class alone does not count. -/
def isPattern (word : String) : Bool := word.toList.any fun c => c == '*' || c == '?'

/-- The listed names that can match at all: those that are texts and not hidden. -/
def visible (names : List Name) : List String :=
  (names.filterMap Utf8.decode?).filter fun name => name.toList.head? != some '.'

/-- Puts names in ascending order of their characters, which is the order of their bytes. -/
def sorted (names : List String) : List String := names.mergeSort fun a b => decide (a ≤ b)

/-- The names that a word stands for, or the one error that it gives. -/
def expand (pattern : String) (listing : Listing) : Except ExpansionError (List String) :=
  match Pattern.compile pattern with
  | .error source => .error (.invalidPattern pattern source)
  | .ok items =>
    match listing with
    | .error source => .error (.unreadableDirectory source)
    | .ok names => .ok (sorted ((visible names).filter (Pattern.accepts items)))

end Wildcard
end LineShell
