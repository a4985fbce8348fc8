import LineShell.Action
import LineShell.Command.Parse

/-!
Parsing a line in a directory. Each pattern of the line asks for the names in the directory when its turn
comes, so it is expanded against the directory as it is then. Nothing is asked for a word that is no pattern
or cannot be read as one, nor for the target of a redirect.
-/

namespace LineShell

namespace Parse

/-- The listing that a token is read against: it matters only for a pattern that can be read. -/
def listingFor (directory : Path) : Token → Action Listing
  | .word w =>
    if Wildcard.isPattern w && (Pattern.compile w).isOk then Action.request (.listDirectory directory)
    else pure (.ok [])
  | _ => pure (.ok [])

/-- Reads the tokens into a draft, each against a listing of its own. -/
def readIn (directory : Path) (limits : Limits) (d : Draft) : List Token → Action (Except ParseError Draft)
  | [] => pure (.ok d)
  | .redirect kind :: .word target :: ts => readIn directory limits (d.redirect kind target) ts
  | t :: ts => do
    let listing ← listingFor directory t
    match read limits listing d [t] with
    | .error e => pure (.error e)
    | .ok d => readIn directory limits d ts

end Parse

/-- Reads a line in a directory. -/
def parseIn (line : String) (directory : Path) (limits : Limits) : Action (Except ParseError ParsedLine) :=
  let body := Parse.body line
  if limits.maxLineLength < body.utf8ByteSize then
    pure (.error (.lineTooLong body.utf8ByteSize limits.maxLineLength))
  else
    match Token.scan body with
    | [] => pure (.ok ⟨.empty, []⟩)
    | tokens => do
      let draft ← Parse.readIn directory limits {} tokens
      pure (draft >>= Parse.Draft.finish)

end LineShell
