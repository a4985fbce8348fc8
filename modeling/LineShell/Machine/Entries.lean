import LineShell.Machine.Opening

/-!
What can be done to entries: they are looked at, made, linked, renamed and removed. An entry that shares
its body with another one stays as it is when that goes.
-/

namespace LineShell.Machine

/-- The error number behind a failure. -/
def errnoOf : Fault → Errno
  | .os e => e
  | _ => .einval

/-- What is known of the node at a location. -/
def statusAt (m : Machine) (l : Location) (node : Node) : EntryStatus :=
  match node with
  | .directory mode _ =>
    let inside := (m.tree.names l).filter fun n => m.tree.isDirectory (l ++ [n])
    { kind := .directory, identity := .location l, mode, size := 4096, links := 2 + inside.length }
  | .file n =>
    let b := m.tree.body n
    { kind := .file, identity := .body n, mode := b.mode, size := b.data.length
      links := m.tree.countLinks n, time := b.time }
  | .link target =>
    { kind := .link, identity := .location l, mode := 0o777, size := target.length }
  | .device d => { kind := .device, identity := .device d, mode := 0o666 }
  | .stream _ => { kind := .device, identity := .location l, mode := 0o666 }
  | .tool _ => { kind := .file, identity := .location l, mode := 0o755, size := 1 }

/-- What is known of the entry that a path leads to. -/
def examineEntry (m : Machine) (s : Setting) (path : Path) (follows : Bool) :
    Except Fault EntryStatus := do
  let l ← if follows then m.tree.reach s.directory path else m.tree.find s.directory path
  match m.tree.get? l with
  | none => throw (.os .enoent)
  | some (.stream n) =>
    match m.streamOf s n with
    | some f => pure (m.statusOf f)
    | none => throw (.os .enoent)
  | some node => pure (m.statusAt l node)

/-- The names in a directory. -/
def listEntry (m : Machine) (s : Setting) (path : Path) : Except Fault (List Name) := do
  let l ← m.tree.reach s.directory path
  match m.tree.get? l with
  | some (.directory mode _) =>
    if isReadable mode then pure (m.tree.names l) else throw (.os .eacces)
  | _ => throw (.os .enotdir)

/-- Makes a directory. -/
def makeDirectory (m : Machine) (s : Setting) (path : Path) (mode : Nat) : Except Fault Machine := do
  match ← m.tree.locate .find s.directory path with
  | .taken _ => throw (.os .eexist)
  | .free l =>
    checkEntries m.tree l.dropLast
    pure { m with tree := m.tree.set l (.directory (mode &&& (0o7777 ^^^ s.mask)) false) }

/-- The path without the slashes at its end. -/
def withoutSlash (path : Path) : Path :=
  match (path.bytes.reverse.dropWhile (· == Path.slash)).reverse with
  | [] => path
  | bytes => ⟨bytes⟩

/-- Removes an entry that is no directory. -/
def unlinkEntry (m : Machine) (s : Setting) (path : Path) : Except Fault Machine := do
  let l ← m.tree.find s.directory (withoutSlash path)
  if m.tree.isDirectory l then throw (.os .eisdir)
  else if path.endsInSlash then throw (.os .enotdir)
  else
    checkEntries m.tree l.dropLast
    pure { m with tree := m.tree.erase l }

/-- Removes an empty directory. -/
def removeDirectory (m : Machine) (s : Setting) (path : Path) : Except Fault Machine := do
  let l ← m.tree.find s.directory (withoutSlash path)
  if path.names.getLast? = some dot then throw (.os .einval)
  else if path.names.getLast? = some dotDot then throw (.os .enotempty)
  else if l = [] then throw (.os ⟨16⟩)
  else if !m.tree.isDirectory l then throw (.os .enotdir)
  else if m.tree.below l ≠ [] then throw (.os .enotempty)
  else
    checkEntries m.tree l.dropLast
    pure { m with tree := m.tree.erase l }

/-- The last name of a path says where something is, not what it is called. -/
def endsInDots (path : Path) : Bool :=
  match path.names.getLast? with
  | none => true
  | some n => n == dot || n == dotDot

/-- A location after an entry has moved with all that is below it. -/
def movedFrom (source goal l : Location) : Location :=
  if source.isPrefixOf l then goal ++ l.drop source.length else l

/-- An entry can be taken from one directory and put into another one. A directory that goes to another one must be
writable itself, as it knows where it is. -/
def checkMove (t : FileTree) (origin place : Location) : Except Fault Unit := do
  checkEntries t origin.dropLast
  checkEntries t place.dropLast
  match t.get? origin with
  | some (.directory mode _) =>
    if origin.dropLast ≠ place.dropLast ∧ !isWritable mode then throw (.os .eacces)
  | _ => pure ()

/-- An entry goes to another location, in place of what stands there. -/
def moveEntry (m : Machine) (source goal : Location) : Machine :=
  { m with
    tree := m.tree.move source goal
    directory := movedFrom source goal m.directory
    processes := m.processes.map fun p =>
      { p with setting := { p.setting with directory := movedFrom source goal p.setting.directory } } }

/-- Renames an entry. What stands at the goal is replaced, a directory only by a directory and if it is
empty. -/
def renameEntry (m : Machine) (s : Setting) (source goal : Path) : Except Fault Machine := do
  if endsInDots source || endsInDots goal then throw (.os ⟨16⟩)
  let origin ← m.tree.find s.directory (withoutSlash source)
  let isDirectory := m.tree.isDirectory origin
  if !isDirectory ∧ source.endsInSlash then throw (.os .enotdir)
  match ← m.tree.locate .find s.directory (withoutSlash goal) with
  | .free place =>
    if !isDirectory ∧ goal.endsInSlash then throw (.os .enotdir)
    if origin.isPrefixOf place then throw (.os .einval)
    checkMove m.tree origin place
    pure (m.moveEntry origin place)
  | .taken place =>
    if origin = place then pure m
    else
      if isDirectory ∧ origin.isPrefixOf place then throw (.os .einval)
      if place.isPrefixOf origin then throw (.os .enotempty)
      match m.tree.get? origin, m.tree.get? place with
      | some (.file a), some (.file b) =>
        if a = b then pure m
        else
          checkMove m.tree origin place
          pure (m.moveEntry origin place)
      | some (.directory _ _), some (.directory _ _) =>
        if m.tree.below place ≠ [] then throw (.os .enotempty)
        else
          checkMove m.tree origin place
          pure (m.moveEntry origin place)
      | some (.directory _ _), _ => throw (.os .enotdir)
      | _, some (.directory _ _) => throw (.os .eisdir)
      | _, _ =>
        checkMove m.tree origin place
        pure (m.moveEntry origin place)

/-- Gives an entry that is no directory another name. -/
def linkEntry (m : Machine) (s : Setting) (source goal : Path) : Except Fault Machine := do
  let origin ← m.tree.find s.directory source
  match m.tree.get? origin with
  | none => throw (.os .enoent)
  | some node =>
    match ← m.tree.locate .find s.directory goal with
    | .taken _ => throw (.os .eexist)
    | .free l =>
      if m.tree.isDirectory origin then throw (.os .eperm)
      else if goal.endsInSlash then throw (.os .enoent)
      else
        checkEntries m.tree l.dropLast
        pure { m with tree := m.tree.set l node }

/-- Makes a link to a path. -/
def makeLinkEntry (m : Machine) (s : Setting) (target : Bytes) (path : Path) : Except Fault Machine := do
  if target = [] then throw (.os .enoent)
  match ← m.tree.locate .find s.directory path with
  | .taken _ => throw (.os .eexist)
  | .free l =>
    if path.endsInSlash then throw (.os .enoent)
    checkEntries m.tree l.dropLast
    pure { m with tree := m.tree.set l (.link target) }

/-- The path that a link holds. -/
def readLinkEntry (m : Machine) (s : Setting) (path : Path) : Except Fault Bytes := do
  let l ← m.tree.find s.directory path
  match m.tree.get? l with
  | some (.link target) => pure target
  | _ => throw (.os .einval)

/-- Changes the rights of an entry. -/
def changeMode (m : Machine) (s : Setting) (path : Path) (mode : Nat) : Except Fault Machine := do
  let l ← m.tree.reach s.directory path
  match m.tree.get? l with
  | some (.file n) =>
    pure { m with tree := m.tree.setBody n { m.tree.body n with mode := mode &&& 0o7777 } }
  | some (.directory _ isSealed) =>
    pure { m with tree := m.tree.set l (.directory (mode &&& 0o7777) isSealed) }
  | _ => throw (.os .eperm)

/-- Says when an entry was last changed: now, if no time is given. -/
def changeTime (m : Machine) (s : Setting) (path : Path) (time : Option Nat) :
    Except Fault Machine := do
  let l ← m.tree.reach s.directory path
  match m.tree.get? l with
  | some (.file n) =>
    let b := m.tree.body n
    pure { m with tree := m.tree.setBody n { b with time := time.getD m.now } }
  | _ => pure m

/-- The directory that a path leads to, if it can be entered. -/
def enterable (m : Machine) (s : Setting) (path : Path) : Except Fault Location := do
  let l ← m.tree.reach s.directory path
  match m.tree.get? l with
  | some (.directory mode _) => if isSearchable mode then pure l else throw (.os .eacces)
  | _ => throw (.os .enotdir)

end LineShell.Machine
