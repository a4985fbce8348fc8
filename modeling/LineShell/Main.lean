import LineShell.Machine.Standard
import LineShell.Machine.System
import LineShell.Startup

/-!
The program. It runs on a machine of its own, made anew each time: the batch file and the input are
brought in, and what the run writes is brought out.
-/

namespace LineShell

/-- Reads a stream to its end. -/
partial def readStream (stream : IO.FS.Stream) (read : Bytes) : IO Bytes := do
  let chunk ← stream.read 65536
  if chunk.isEmpty then pure read else readStream stream (read ++ chunk.toList)

/-- Puts a file at a path from the root. -/
def Machine.addFileAt (m : Machine) (path : Path) (data : Bytes) : Machine :=
  let names := path.names
  { m with tree := (m.tree.setDirectories [] names.dropLast).setFile names { mode := 0o644, data } }

/-- Makes bytes the input of the shell. -/
def Machine.withInput (m : Machine) (data : Bytes) : Machine :=
  let (number, tree) := m.tree.addBody { mode := 0o644, data }
  { m with
    tree
    files := Machine.update 0 { endpoint := .body number, reads := true } m.files }

/-- Writes what a run has written to the streams that it was written to. -/
def showConsole (m : Machine) : IO Unit := do
  for output in m.console.reverse do
    let stream ← match output.channel with
      | .out => IO.getStdout
      | .err => IO.getStderr
    stream.write ⟨output.bytes.toArray⟩
    stream.flush

end LineShell

open LineShell in
/-- Runs the program with its arguments. -/
def main (args : List String) : IO UInt32 := do
  let input ← readStream (← IO.getStdin) []
  let isTerminal ← (← IO.getStdin).isTty
  let mut machine : Machine := {
    tree := Machine.standardTree, environment := Machine.standardEnvironment, isTerminal }
  machine := machine.withInput input
  for file in args.take 1 do
    match ← (IO.FS.readBinFile file).toBaseIO with
    | .ok data => machine := machine.addFileAt (.ofString file) data.toList
    | .error _ => pure ()
  let (exit, after) := (Startup.runGiven (args.map Utf8.encode)).run Machine.system machine
  showConsole after
  pure (UInt32.ofNat exit.code)
