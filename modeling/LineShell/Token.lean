/-!
The tokens of a line. A line is cut at spaces and newlines into its maximal runs of other characters;
a run that is exactly `|`, `<` or `>` is an operator, every other run is a word. There is no quoting,
so every line has tokens and no line is malformed at this level.
-/

namespace LineShell

/-- Which of its two streams a stage redirects. -/
inductive Redirect where
  | input
  | output
  deriving DecidableEq, Repr

/-- The operator that redirects a stream. -/
def Redirect.symbol : Redirect → String
  | .input => "<"
  | .output => ">"

/-- A piece of a line. -/
inductive Token where
  | pipe
  | redirect (kind : Redirect)
  | word (text : String)
  deriving DecidableEq, Repr

namespace Token

/-- The characters that end a run: space and newline, and no other white space. -/
def isSeparator (c : Char) : Bool := c == ' ' || c == '\n'

/-- Puts `c` in front of the first run. -/
def extend (c : Char) : List (List Char) → List (List Char)
  | [] => [[c]]
  | run :: runs => (c :: run) :: runs

/-- The maximal runs of characters that are no separators. -/
def runs : List Char → List (List Char)
  | [] => []
  | c :: cs =>
    if isSeparator c then runs cs
    else match cs with
      | [] => [[c]]
      | d :: _ => if isSeparator d then [c] :: runs cs else extend c (runs cs)

/-- The token that a run is. -/
def ofRun (run : List Char) : Token :=
  if run = ['|'] then .pipe
  else if run = ['<'] then .redirect .input
  else if run = ['>'] then .redirect .output
  else .word (String.ofList run)

/-- The tokens of a line. -/
def scan (line : String) : List Token := (runs line.toList).map ofRun

/-- The text that a token was written as. -/
def text : Token → String
  | .pipe => "|"
  | .redirect kind => kind.symbol
  | .word w => w

end Token
end LineShell
