import LineShell.Action
import LineShell.Command

/-!
Carrying out builtins. A builtin writes nothing itself: it gives back what is to be written, and a
working directory, which only a successful `cd` replaces. It either succeeds, with nothing for the
error stream, or fails, with a message and nothing else.
-/

namespace LineShell

/-- What a session does after a line. -/
inductive Flow where
  | continue
  | exit
  deriving DecidableEq, Repr

/-- What a builtin gives: its status, what is to be written, and whether the session goes on. -/
structure BuiltinOutput where
  status : Status
  stdout : Bytes := []
  stderr : Bytes := []
  flow : Flow := .continue
  deriving DecidableEq, Repr

namespace BuiltinOutput

/-- Success without a word. -/
def success : BuiltinOutput := { status := .success }

/-- Success, with one line to show. -/
def line (text : String) : BuiltinOutput :=
  { status := .success, stdout := Utf8.encode (text ++ "\n") }

/-- Failure, with one message. -/
def failure (message : String) : BuiltinOutput :=
  { status := .failure, stderr := Utf8.encode (message ++ "\n") }

/-- The end of the session. -/
def exit : BuiltinOutput := { status := .success, flow := .exit }

end BuiltinOutput

namespace Builtin

/-- Moves to the directory that `target` names from `directory`, if it may be entered; the new working
directory is its canonical path. -/
def changeDirectory (directory : Path) (target : String) : Action (BuiltinOutput × Path) := do
  match ← Action.request (.canonicalize (directory.join (.ofString target))) with
  | .error e => pure (.failure s!"cd: {target}: {e.message}", directory)
  | .ok canonical =>
    match ← Action.request (.examine canonical) with
    | .error e => pure (.failure s!"cd: {target}: {e.message}", directory)
    | .ok .directory =>
      match ← Action.request (.checkSearch canonical) with
      | .error e => pure (.failure s!"cd: {target}: {e.text}", directory)
      | .ok () => pure (.success, canonical)
    | .ok _ => pure (.failure s!"cd: {target}: Not a directory", directory)

/-- Shows the working directory, if it is still there. -/
def showDirectory (directory : Path) : Action (BuiltinOutput × Path) := do
  match ← Action.request (.examine directory) with
  | .error e => pure (.failure s!"pwd: {e.message}", directory)
  | .ok _ => pure (.line directory.display, directory)

/-- Carries a builtin out, whatever the number of its arguments. -/
def execute (b : Builtin) (directory : Path) (args : List String) : Action (BuiltinOutput × Path) :=
  match b with
  | .cd =>
    match args with
    | [] => pure (.failure "cd: missing directory", directory)
    | target :: _ => changeDirectory directory target
  | .pwd => showDirectory directory
  | .which =>
    match args with
    | [] => pure (.failure "which: missing name", directory)
    | name :: _ => pure (.line name, directory)
  | .exit => pure (.exit, directory)

/-- Carries a builtin out if it takes so many arguments. -/
def invoke (b : Builtin) (directory : Path) (args : List String) : Action (BuiltinOutput × Path) :=
  if b.arity.accepts args.length then b.execute directory args
  else pure (.failure s!"{b.name}: wrong number of arguments", directory)

end Builtin
end LineShell
