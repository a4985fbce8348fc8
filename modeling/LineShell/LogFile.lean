import LineShell.Action

/-!
The log file of a run. It is opened for writing at its end, and made if it is missing. Where it cannot be
opened, the directories that lead to it are made, and then it is tried once more.
-/

namespace LineShell.LogFile

/-- The name of the log file. -/
def name : String := "mysh.log"

/-- There is a directory at the path. -/
def isDirectory (path : Path) : Action Bool := do
  match ← Action.request (.examine path) with
  | .ok .directory => pure true
  | _ => pure false

/-- Makes a directory, unless there is one. -/
def ensureDirectory (path : Path) : Action (Except Fault Unit) := do
  match ← Action.request (.createDirectory path) with
  | .ok () => pure (.ok ())
  | .error e => pure (if ← isDirectory path then .ok () else .error e)

/-- Makes a directory and the directories above it that are missing, at most so many. -/
def ensureDirectories : Nat → Path → Action (Except Fault Unit)
  | 0, path => ensureDirectory path
  | n + 1, path => do
    if path.bytes.isEmpty then pure (.ok ())
    else
      match ← Action.request (.createDirectory path) with
      | .ok () => pure (.ok ())
      | .error e =>
        if e = .os .enoent then
          match path.parent? with
          | none => pure (.error e)
          | some above =>
            match ← ensureDirectories n above with
            | .error e => pure (.error e)
            | .ok () => ensureDirectory path
        else pure (if ← isDirectory path then .ok () else .error e)

/-- Opens the log file in a directory. -/
def openIn (directory : Path) : Action (Except Fault Descriptor) := do
  let path := directory.join (.ofString name)
  match ← Action.request (.openAppend path) with
  | .ok d => pure (.ok d)
  | .error e =>
    match path.parent? with
    | none => pure (.error e)
    | some above =>
      match ← ensureDirectories above.bytes.length above with
      | .error e => pure (.error e)
      | .ok () => Action.request (.openAppend path)

end LineShell.LogFile
