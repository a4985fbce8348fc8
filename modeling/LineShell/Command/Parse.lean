import LineShell.Command
import LineShell.Wildcard.Expansion

/-!
From a line to the command it asks for. The tokens are read once, from left to right, into a draft of
one or two stages; the first offence met ends the reading. What is missing altogether, the program of
a stage, is noticed only at the end. A word that is a pattern gives all its matches as arguments, and
one that cannot be expanded gives none and leaves a diagnostic; the target of a redirect is taken as
it is written.
-/

namespace LineShell

/-- The bounds on one line. -/
structure Limits where
  maxLineLength : Nat := 1024
  maxArgs : Nat := 64
  deriving DecidableEq, Repr

/-- Why a line is no command. -/
inductive ParseError where
  | missingRedirectTarget (kind : Redirect)
  | unsupportedPipelineDepth
  | missingCommand
  | emptyPipelineStage
  | lineTooLong (length limit : Nat)
  | tooManyArguments (count limit : Nat)
  deriving DecidableEq, Repr

/-- The text of an error. -/
def ParseError.message : ParseError → String
  | .missingRedirectTarget kind => s!"syntax error: `{kind.symbol}` needs a file name"
  | .unsupportedPipelineDepth => "syntax error: only one `|` is supported per line"
  | .missingCommand => "syntax error: missing command"
  | .emptyPipelineStage => "syntax error: missing command after `|`"
  | .lineTooLong length limit => s!"line is {length} bytes long, the limit is {limit}"
  | .tooManyArguments count limit => s!"too many arguments ({count}), the limit is {limit}"

/-- A command, and the patterns of its line that could not be expanded, in order. -/
structure ParsedLine where
  command : Command
  diagnostics : List ExpansionError := []
  deriving DecidableEq, Repr

namespace Parse

/-- What an argument word stands for: the arguments that it gives, and the errors. -/
def argumentsOf (listing : Listing) (word : String) : List String × List ExpansionError :=
  if Wildcard.isPattern word then
    match Wildcard.expand word listing with
    | .ok names => (names, [])
    | .error e => ([], [e])
  else ([word], [])

/-- The stages read so far; tokens go to the last one. -/
structure Draft where
  first : Stage := {}
  second : Option Stage := none
  diagnostics : List ExpansionError := []
  deriving DecidableEq, Repr

namespace Draft

/-- The stage that is being read. -/
def current (d : Draft) : Stage := d.second.getD d.first

/-- Replaces the stage that is being read. -/
def setCurrent (d : Draft) (s : Stage) : Draft :=
  match d.second with
  | none => { d with first := s }
  | some _ => { d with second := some s }

/-- Redirects a stream of the stage that is being read. -/
def redirect (d : Draft) (kind : Redirect) (target : String) : Draft :=
  d.setCurrent (d.current.redirect kind target)

/-- Adds what an argument word stands for, unless the stage then has too many arguments. -/
def addWord (limits : Limits) (listing : Listing) (d : Draft) (word : String) :
    Except ParseError Draft :=
  let (names, errors) := argumentsOf listing word
  let args := d.current.args ++ names
  if limits.maxArgs < args.length then .error (.tooManyArguments args.length limits.maxArgs)
  else .ok { d.setCurrent { d.current with args } with diagnostics := d.diagnostics ++ errors }

/-- Starts the second stage, unless there is one. -/
def addPipe (d : Draft) : Except ParseError Draft :=
  match d.second with
  | none => .ok { d with second := some {} }
  | some _ => .error .unsupportedPipelineDepth

/-- The command that the stages ask for, each of which needs a program. -/
def finish (d : Draft) : Except ParseError ParsedLine :=
  if d.first.args.isEmpty then .error .missingCommand
  else if d.second.any (·.args.isEmpty) then .error .emptyPipelineStage
  else .ok ⟨Command.ofStages d.first d.second, d.diagnostics⟩

end Draft

/-- Reads the tokens into a draft. -/
def read (limits : Limits) (listing : Listing) (d : Draft) : List Token → Except ParseError Draft
  | [] => .ok d
  | .pipe :: ts => do read limits listing (← d.addPipe) ts
  | .redirect kind :: .word target :: ts => read limits listing (d.redirect kind target) ts
  | .redirect kind :: _ => .error (.missingRedirectTarget kind)
  | .word w :: ts => do read limits listing (← d.addWord limits listing w) ts

/-- The line without the newline that ends it. -/
def body (line : String) : String :=
  match line.toList.reverse with
  | '\n' :: cs => String.ofList cs.reverse
  | _ => line

end Parse

/-- Reads a line against the names of a directory. -/
def parse (line : String) (listing : Listing) (limits : Limits) : Except ParseError ParsedLine :=
  let body := Parse.body line
  if limits.maxLineLength < body.utf8ByteSize then
    .error (.lineTooLong body.utf8ByteSize limits.maxLineLength)
  else
    match Token.scan body with
    | [] => .ok ⟨.empty, []⟩
    | tokens => do (← Parse.read limits listing {} tokens).finish

end LineShell
