import LineShell.Machine.Script.Evaluation
import LineShell.Machine.Tools.Job

/-!
The start of a shell: the variables that it finds, its options, and where its commands come from. They are an
argument, or the text of a file or of the input.
-/

namespace LineShell.Machine.Script

namespace Start

/-- The variables that a shell has before it looks at its environment. -/
def standardVariables : List (Bytes × Variable) :=
  [("IFS", " \t\n"), ("PATH", "/usr/local/sbin:/usr/local/bin:/usr/sbin:/usr/bin:/sbin:/bin"), ("PS1", "$ "),
    ("PS2", "> "), ("PS4", "+ "), ("OPTIND", "1")].map fun v =>
      (Utf8.encode v.1, { value := some (Utf8.encode v.2) })

/-- Takes a variable from the environment. -/
def adopt (v : Bytes × Bytes) : Sh Unit := do
  if isName v.1 then Sh.assign v.1 v.2 true

/-- Sets the variables of a shell. -/
def setVariables (environment : Environment) : Sh Unit := do
  modify fun s => { s with store := standardVariables }
  for v in environment do adopt v
  let separators := Utf8.encode "IFS"
  Sh.putVariable separators { value := some Sh.standardSeparators }
  Sh.assign (Utf8.encode "OPTIND") [0x31] false
  let number : Nat ← Sh.call .self
  let parent : Nat ← Sh.call .parent
  modify fun s => { s with number, parent }
  Sh.putVariable (Utf8.encode "PPID") { value := some (Utf8.encode s!"{parent}") }
  Place.begin_

/-- Gives the shell a name and arguments. -/
def setTitle (title : Bytes) (args : List Bytes) : Sh Unit :=
  modify fun s => { s with title, positional := args }

/-- Runs the commands of a stream, which is kept away from them. -/
def runKept (stream : Nat) : Sh Nat := do
  match ← Sh.call (.duplicateAbove stream Redirecting.leastKept) with
  | .ok kept => do
    let _ ← Sh.call (.close stream)
    Evaluation.runStream Evaluation.runner kept
  | .error _ => Evaluation.runStream Evaluation.runner stream

/-- Runs the commands that the arguments of the shell ask for. -/
def runAll (how : Invoked) : Sh Nat := do
  setVariables how.environment
  let rest ← Settings.readOptions true (how.args.length + 1) how.args false
  let readsInput ← Sh.hasOption 's'
  match rest.asksCommand, rest.operands with
  | true, [] => Sh.failText "-c requires an argument"
  | true, text :: operands => do
    match operands with
    | [] => pure ()
    | title :: args => setTitle title args
    let _ ← Evaluation.runText Evaluation.runner { isLast := !readsInput } text
    if readsInput then
      let _ ← Evaluation.runStream Evaluation.runner Job.input
  | false, operands =>
    match readsInput, operands with
    | false, path :: args => do
      let stream ← Redirecting.openPath path { reads := true }
      setTitle path args
      let _ ← runKept stream
    | _, operands => do
      Settings.setOption 's' true
      setTitle how.name operands
      let _ ← Evaluation.runStream Evaluation.runner Job.input
  pure (← get).status

/-- What a shell does that is called in some way. -/
def program (how : Invoked) : Program :=
  Work.program do
    let (result, s) ← (runAll how).run.run { title := how.name }
    Evaluation.finish Evaluation.runner s result

end Start
end LineShell.Machine.Script
