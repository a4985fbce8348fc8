import LineShell.Builtin
import LineShell.Command.ParseIn
import LineShell.Config
import LineShell.Launch
import LineShell.Text.Lines

/-!
A session: line after line, each parsed, carried out and remembered by its status. Whatever a line
does, the session goes on; only `exit`, or a failure to write to one of the session's own two streams,
ends it. A failed write leaves the status as it was before the line.
-/

namespace LineShell

/-- Whether prompts and banners are shown. -/
inductive Mode where
  | interactive
  | batch
  deriving DecidableEq, Repr

/-- What outlives a line. -/
structure Session where
  config : Config
  directory : Path
  status : Option Status := none
  deriving DecidableEq, Repr

namespace Session

/-- The number of the last status, if there has been one. -/
def lastStatus (s : Session) : Option Nat := s.status.map Status.code

/-- The line that opens an interactive session. -/
def welcome : String := "Welcome to my shell!\n"

/-- The line that closes an interactive session. -/
def goodbye : String := "Exiting my shell.\n"

/-- How a line of the session's own error output starts. -/
def marker : String := "mysh: "

/-- Writes bytes to a stream; when there are none, nothing is asked for. -/
def put (channel : Channel) (bytes : Bytes) : Action (Except Fault Unit) :=
  if bytes.isEmpty then pure (.ok ()) else Action.request (.write channel bytes)

/-- Writes messages to the error stream, one after the other, until one cannot be written. -/
def complain : List String → Action (Except Fault Unit)
  | [] => pure (.ok ())
  | message :: messages => do
    match ← put .err (Utf8.encode (marker ++ message ++ "\n")) with
    | .error e => pure (.error e)
    | .ok () => complain messages

/-- Carries a builtin out and shows what it gave. -/
def executeBuiltin (s : Session) (i : Invocation) : Action (Session × Except Fault Flow) := do
  let (output, directory) ← i.builtin.invoke s.directory i.args
  let s := { s with directory }
  match ← put .out output.stdout with
  | .error e => pure (s, .error e)
  | .ok () =>
    match ← Action.request (.flush .out) with
    | .error e => pure (s, .error e)
    | .ok () =>
      match ← complain (Lines.ofText (Utf8.decodeLossy output.stderr)) with
      | .error e => pure (s, .error e)
      | .ok () => pure ({ s with status := some output.status }, .ok output.flow)

/-- Runs a plan and reports its failures. -/
def executePlan (s : Session) (p : Plan) : Action (Session × Except Fault Flow) := do
  match ← Action.request (.flush .out) with
  | .error e => pure (s, .error e)
  | .ok () =>
    let outcome ← p.run s.directory
    match ← complain (outcome.failures.map LaunchError.message) with
    | .error e => pure (s, .error e)
    | .ok () => pure ({ s with status := some outcome.status }, .ok .continue)

/-- Carries a command out. -/
def executeCommand (s : Session) : Command → Action (Session × Except Fault Flow)
  | .empty => pure (s, .ok .continue)
  | .builtin i => s.executeBuiltin i
  | .external p => s.executePlan p

/-- Parses a line and carries it out. -/
def execute (s : Session) (line : String) : Action (Session × Except Fault Flow) := do
  match ← parseIn line s.directory s.config.limits with
  | .error e =>
    match ← complain [e.message] with
    | .error fault => pure (s, .error fault)
    | .ok () => pure ({ s with status := some .syntaxError }, .ok .continue)
  | .ok parsed =>
    match ← complain (parsed.diagnostics.map ExpansionError.message) with
    | .error fault => pure (s, .error fault)
    | .ok () => s.executeCommand parsed.command

/-- Shows the prompt, if there is one to show. -/
def prompt (s : Session) : Mode → Action (Except Fault Unit)
  | .batch => pure (.ok ())
  | .interactive => do
    match ← put .out (Utf8.encode s.config.prompt) with
    | .error e => pure (.error e)
    | .ok () => Action.request (.flush .out)

/-- Shows a banner, in an interactive session. -/
def banner (text : String) : Mode → Action (Except Fault Unit)
  | .batch => pure (.ok ())
  | .interactive => put .out (Utf8.encode text)

/-- Carries lines out until they end, one of them asks for the exit, or something fails. After the
last line the end of the input is met, or the failure to read on. -/
def runLines (mode : Mode) (ending : Option Fault) (s : Session) :
    List String → Action (Session × Except Fault Unit)
  | [] => do
    match ← s.prompt mode with
    | .error e => pure (s, .error e)
    | .ok () => pure (s, ending.elim (.ok ()) .error)
  | line :: lines => do
    match ← s.prompt mode with
    | .error e => pure (s, .error e)
    | .ok () =>
      match ← s.execute line with
      | (s, .error e) => pure (s, .error e)
      | (s, .ok .exit) => pure (s, .ok ())
      | (s, .ok .continue) => runLines mode ending s lines

/-- The lines that a source yields before it ends or fails; a line that is cut off by a failure is
not among them. -/
def linesOf (input : Reading) : List String :=
  match input.failure with
  | none => Lines.decode input.bytes
  | some _ => ((Lines.split input.bytes).filter Lines.isComplete).map Utf8.decodeLossy

/-- Puts the lines of a session between its banners. -/
def betweenBanners (s : Session) (mode : Mode) (body : Action (Session × Except Fault Unit)) :
    Action (Session × Except Fault Unit) := do
  match ← banner welcome mode with
  | .error e => pure (s, .error e)
  | .ok () =>
    match ← body with
    | (s, .error e) => pure (s, .error e)
    | (s, .ok ()) =>
      match ← banner goodbye mode with
      | .error e => pure (s, .error e)
      | .ok () =>
        let flushed ← Action.request (.flush .out)
        pure (s, flushed)

/-- Runs a session on what has been read of a source of lines. -/
def run (s : Session) (mode : Mode) (input : Reading) : Action (Session × Except Fault Unit) :=
  s.betweenBanners mode (runLines mode input.failure s (linesOf input))

/-! ### Sources that are read on the way

A source may change while its lines are carried out: a command may write to the file, or read from the same
input. So it is read no further than the next line needs, in pieces of a fixed size, and a line without an
end asks for more. -/

/-- How much of a source is read at a time. -/
def pieceSize : Nat := 8192

/-- More pieces and more lines than any source has. -/
def manyPieces : Nat := Nat.pow 2 62

/-- Takes the next line, with its newline, off what has been read; more is read as long as it has none. The
line is empty only at the end of the source. -/
def nextLine (source : Option Descriptor) : Nat → Bytes → Action (Except Fault (Bytes × Bytes))
  | 0, held => pure (.ok (held, []))
  | rounds + 1, held =>
    let line := held.takeWhile (· ≠ Lines.newline)
    match held.drop line.length with
    | end_ :: rest => pure (.ok (line ++ [end_], rest))
    | [] => do
      match ← Action.request (.read source pieceSize) with
      | .error e => pure (.error e)
      | .ok [] => pure (.ok (held, []))
      | .ok piece => nextLine source rounds (held ++ piece)

/-- Carries lines out as they are read. -/
def runSource (mode : Mode) (source : Option Descriptor) :
    Nat → Session → Bytes → Action (Session × Except Fault Unit)
  | 0, s, _ => pure (s, .ok ())
  | rounds + 1, s, held => do
    match ← s.prompt mode with
    | .error e => pure (s, .error e)
    | .ok () =>
      match ← nextLine source manyPieces held with
      | .error e => pure (s, .error e)
      | .ok ([], _) => pure (s, .ok ())
      | .ok (line, held) =>
        match ← s.execute (Utf8.decodeLossy line) with
        | (s, .error e) => pure (s, .error e)
        | (s, .ok .exit) => pure (s, .ok ())
        | (s, .ok .continue) => runSource mode source rounds s held

/-- Runs a session on a source of lines: an open file, or the shell's own input. -/
def runLive (s : Session) (mode : Mode) (source : Option Descriptor) :
    Action (Session × Except Fault Unit) :=
  s.betweenBanners mode (runSource mode source manyPieces s [])

end Session
end LineShell
