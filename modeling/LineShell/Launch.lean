import LineShell.Action
import LineShell.Command

/-!
Running a plan. A stage opens its redirects, the input before the output, and starts its program with
them; a stream without a redirect is the end of the pipe that falls to the stage, or the shell's own.
Whatever happens, a stage closes every descriptor that was opened for it or given to it before the
next one starts, so that no end of the pipe is left open when the waiting begins. Both stages are
started and waited for whatever happens to the other; a failure is reported and becomes the status of
its own stage, and the last stage gives the status of the plan.
-/

namespace LineShell

/-- Why a stage, or the pipe between two, did not come about, or how it ended is not known. -/
inductive LaunchError where
  | emptyCommand
  | notFound (program : String)
  | permissionDenied (program : String)
  | spawn (program : String) (source : Fault)
  | redirect (path : Path) (source : Fault)
  | pipe (errno : Errno)
  | wait (source : Fault)
  deriving DecidableEq, Repr

namespace LaunchError

/-- The error for a program that could not be started. -/
def ofSpawn (program : String) (source : Fault) : LaunchError :=
  if source = .os .enoent then .notFound program
  else if source = .os .eacces ∨ source = .os .eperm then .permissionDenied program
  else .spawn program source

/-- The text of an error. -/
def message : LaunchError → String
  | .emptyCommand => "empty command"
  | .notFound program => s!"{program}: command not found"
  | .permissionDenied program => s!"{program}: permission denied"
  | .spawn program source => s!"{program}: {source.message}"
  | .redirect path source => s!"{path.display}: {source.message}"
  | .pipe errno => s!"failed to create pipe: {errno.symbolAndText}"
  | .wait source => s!"failed to wait for child: {source.message}"

/-- The status of a stage that fails this way. -/
def status : LaunchError → Status
  | .notFound _ => .notFound
  | .permissionDenied _ => .notExecutable
  | _ => .failure

end LaunchError

/-- The ends of a pipe that fall to a stage. -/
structure PipeEnds where
  input : Option Descriptor := none
  output : Option Descriptor := none
  deriving DecidableEq, Repr

namespace Stage

/-- Closes a descriptor if there is one. -/
def closeIfAny : Option Descriptor → Action Unit
  | none => pure ()
  | some d => Action.request (.close d)

/-- Opens the file of a redirect if there is one. -/
def openRedirect (directory : Path) (target : Option String) (kind : Redirect) :
    Action (Except LaunchError (Option Descriptor)) :=
  match target with
  | none => pure (.ok none)
  | some t => do
    let path := directory.join (.ofString t)
    let opened ← match kind with
      | .input => Action.request (.openInput path)
      | .output => Action.request (.openOutput path)
    match opened with
    | .ok d => pure (.ok (some d))
    | .error source => pure (.error (.redirect path source))

/-- The path that a program name stands for: a bare name is left to the search path, and any other is
taken from the working directory. -/
def programPath (directory : Path) (program : String) : Path :=
  if program.toList.contains '/' then directory.join (.ofString program) else .ofString program

/-- Starts the program of a stage; the descriptors that were opened for it are closed again. -/
def start (s : Stage) (directory : Path) (ends : PipeEnds) : Action (Except LaunchError Child) :=
  match s.args with
  | [] => pure (.error .emptyCommand)
  | program :: args => do
    match ← openRedirect directory s.input .input with
    | .error e => pure (.error e)
    | .ok ownInput =>
      match ← openRedirect directory s.output .output with
      | .error e =>
        closeIfAny ownInput
        pure (.error e)
      | .ok ownOutput =>
        let spawned ← Action.request (.spawn {
          program := programPath directory program
          args := args
          directory := directory
          input := ownInput <|> ends.input
          output := ownOutput <|> ends.output })
        closeIfAny ownInput
        closeIfAny ownOutput
        match spawned with
        | .ok child => pure (.ok child)
        | .error source => pure (.error (.ofSpawn program source))

/-- Starts a stage and closes the pipe ends that fell to it. -/
def launch (s : Stage) (directory : Path) (ends : PipeEnds) : Action (Except LaunchError Child) := do
  let started ← s.start directory ends
  closeIfAny ends.input
  closeIfAny ends.output
  pure started

end Stage

/-- How a stage ended, and the error that it ended with if there was one. -/
structure StageEnd where
  status : Status
  failure : Option LaunchError := none
  deriving DecidableEq, Repr

namespace StageEnd

/-- A stage that ended with an error. -/
def ofError (e : LaunchError) : StageEnd := ⟨e.status, some e⟩

/-- Waits for a stage if it was started. A stage that was not started has its status already, and
its error was reported then. -/
def await : Except LaunchError Child → Action StageEnd
  | .error e => pure ⟨e.status, none⟩
  | .ok child => do
    match ← Action.request (.wait child) with
    | .ok w => pure ⟨.ofProgram w, none⟩
    | .error source => pure (.ofError (.wait source))

end StageEnd

/-- How a plan ended: its status, and the errors in the order in which they were met. -/
structure Outcome where
  status : Status
  failures : List LaunchError := []
  deriving DecidableEq, Repr

namespace Plan

/-- The error of a launch, if it failed. -/
def launchFailure : Except LaunchError Child → List LaunchError
  | .ok _ => []
  | .error e => [e]

/-- Runs a plan in a directory and waits for its end. -/
def run (p : Plan) (directory : Path) : Action Outcome :=
  match p.second with
  | none => do
    let launched ← p.first.launch directory {}
    let ending ← StageEnd.await launched
    pure ⟨ending.status, launchFailure launched ++ ending.failure.toList⟩
  | some second => do
    match ← Action.request .makePipe with
    | .error errno => pure ⟨LaunchError.status (.pipe errno), [.pipe errno]⟩
    | .ok (reader, writer) =>
      let left ← p.first.launch directory { output := some writer }
      let right ← second.launch directory { input := some reader }
      let leftEnd ← StageEnd.await left
      let rightEnd ← StageEnd.await right
      pure ⟨rightEnd.status, launchFailure left ++ launchFailure right ++
        leftEnd.failure.toList ++ rightEnd.failure.toList⟩

end Plan
end LineShell
