import LineShell.Config.Reading
import LineShell.EnvFile
import LineShell.LogFile
import LineShell.LogFilter
import LineShell.Session

/-!
A whole run of the program: its preparations in their order, and then one session. A step that fails ends
the run before the next one; the exit code says only whether the shell itself worked, whatever became of
the lines. A run breaks where an argument is no text, where the environment cannot be given a value, or where
what is said before the session cannot be shown.
-/

namespace LineShell.Startup

/-- What is shown when there are too many arguments. -/
def usage : String := "usage: mysh [batch-file]\n"

/-- How a run ends. -/
inductive Exit where
  | success
  | failure
  | broken
  deriving DecidableEq, Repr

/-- The exit code. -/
def Exit.code : Exit → Nat
  | .success => 0
  | .failure => 1
  | .broken => 101

/-- Reports why a run cannot go on. -/
def fail (message : String) : Action Exit := do
  let _ ← Action.request (.write .err (Utf8.encode ("Error: " ++ message ++ "\n")))
  pure .failure

/-- Where the lines come from: the file that is named, or the input. -/
def openInput : Option String → Action (Except String (Mode × Option Descriptor))
  | some file => do
    match ← Action.request (.openInput (.ofString file)) with
    | .ok d => pure (.ok (.batch, some d))
    | .error e => pure (.error s!"failed to open batch file {file}: {e.message}")
  | none => do
    let isTerminal : Bool ← Action.request .isTerminal
    pure (.ok (if isTerminal then .interactive else .batch, none))

/-- Runs the session. -/
def runSession (config : Config) (mode : Mode) (source : Option Descriptor) : Action Exit := do
  match ← Action.request .currentDirectory with
  | .error e => fail e.message
  | .ok directory =>
    match ← Session.runLive { config, directory } mode source with
    | (_, .error e) => fail e.message
    | (_, .ok ()) => pure .success

/-- Prepares a run and runs its session. -/
def start (file : Option String) : Action Exit := do
  match ← EnvFile.load with
  | .error e =>
    let _ ← fail s!"a variable cannot have the value of {e.key}"
    pure .broken
  | .ok () =>
    match ← Config.load with
    | .error e => fail e.message
    | .ok config =>
      match ← LogFile.openIn config.logDirectory with
      | .error e => fail s!"failed to open log file in {config.logDirectory.display}: {e.message}"
      | .ok _ =>
        match ← LogFilter.load with
        | .error _ => pure .broken
        | .ok () =>
          match ← openInput file with
          | .error message => fail message
          | .ok (mode, source) => runSession config mode source

/-- Runs the program with its arguments. -/
def run : List String → Action Exit
  | [] => start none
  | [file] => start (some file)
  | _ => do
    match ← Action.request (.write .err (Utf8.encode usage)) with
    | .error _ => pure .broken
    | .ok () => pure .failure

/-- Runs the program with its arguments as they are given to it. One that is no text is more than the program
can stand. -/
def runGiven (args : List Bytes) : Action Exit :=
  match args.mapM Utf8.decode? with
  | some texts => run texts
  | none => do
    let _ ← fail "an argument is no text"
    pure .broken

end LineShell.Startup
