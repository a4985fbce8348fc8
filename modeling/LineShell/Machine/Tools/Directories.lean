import LineShell.Machine.Tools.Naming
import LineShell.Machine.Tools.Rights

/-!
Making directories, and removing those that are empty.
-/

namespace LineShell.Machine.Directories

/-- The mask of the process. -/
def mask : Job Nat := do
  let mask : Nat ← Job.call (.setMask 0)
  let _ : Nat ← Job.call (.setMask mask)
  pure mask

/-- The rights that a new entry is given, from those that it has without more. -/
def modeOf (o : Options) (standard : Nat) (isDirectory : Bool) : Job (Option Nat) := do
  match o.value? "mode" with
  | none => pure none
  | some text =>
    match Rights.read? text with
    | some change => pure (some (change.apply isDirectory (← mask) standard))
    | none => Job.fail (Utf8.encode "invalid mode " ++ Quoting.plain text)

/-- Says that a directory has been made. -/
def announce (isVerbose : Bool) (what path : Bytes) : Job Unit := do
  if isVerbose then Job.printLine (what ++ Utf8.encode " " ++ Quoting.always path)

/-- The line about a new directory. -/
def madeLine : Job Bytes := do pure ((← Job.name) ++ Utf8.encode ": created directory")

/-- The beginnings of a path that end in front of a slash with a name behind it. -/
def parents (path : Bytes) : List Bytes :=
  (List.range path.length).filterMap fun n =>
    let front := path.take n
    let rest := path.drop n
    let isName := front.getLast?.any (· ≠ Path.slash)
    if isName ∧ rest.head? = some Path.slash ∧ rest.any (· ≠ Path.slash) then some front else none

/-- Makes the directories that a path leads through; the one that fails is given back with the reason. -/
def makeParents (announceMade : Bytes → Job Unit) : List Bytes → Job (Except (Bytes × Errno) Unit)
  | [] => pure (.ok ())
  | path :: more => do
    let mask ← mask
    let _ : Nat ← Job.call (.setMask (Rights.without mask 0o300))
    let made : Except Errno Unit ← Job.call (.makeDirectory ⟨path⟩ 0o777)
    let _ : Nat ← Job.call (.setMask mask)
    match made with
    | .ok () => announceMade path
    | .error _ => pure ()
    let entered : Except Errno EntryStatus ← Job.call (.examine ⟨path ++ [Path.slash, 0x2E]⟩ true)
    match entered, made with
    | .ok _, _ => makeParents announceMade more
    | .error e, .error why => pure (.error (path, if e = .enoent then why else e))
    | .error e, .ok () => pure (.error (path, e))

/-- Makes a directory, and says whether one stands there now. -/
def makeOne (path : Bytes) (mode : Option Nat) : Job (Except Errno Bool) := do
  match ← Job.call (.makeDirectory ⟨path⟩ 0o777) with
  | .ok () =>
    match mode with
    | none => pure (.ok true)
    | some mode =>
      match ← Job.call (.changeMode ⟨path⟩ mode) with
      | .ok () => pure (.ok true)
      | .error e => pure (.error e)
  | .error e =>
    match ← Job.call (.examine ⟨path⟩ true) with
    | .ok status => pure (if status.kind = .directory then .ok false else .error e)
    | .error _ => pure (.error e)

/-- Complains about a directory that cannot be made. -/
def complainMaking (path : Bytes) (e : Errno) : Job Nat := do
  Job.complainOf (Utf8.encode "cannot create directory " ++ Quoting.always path) e
  pure 1

/-- Makes directories. -/
def make : Job Nat := do
  let o ← Job.options "m|mode= p|parents v|verbose Z context=?"
  if o.operands = [] then Job.refuseText "missing operand"
  else
    let mode ← modeOf o 0o777 true
    let isVerbose := o.has "verbose"
    let line ← madeLine
    Job.forEach o.operands fun path => do
      let before ← if o.has "parents" then makeParents (announce isVerbose line) (parents path) else pure (.ok ())
      match before with
      | .error (path, e) => complainMaking path e
      | .ok () =>
        match ← makeOne path mode with
        | .error e => complainMaking path e
        | .ok isNew =>
          if isNew then
            announce isVerbose line path
            pure 0
          else if o.has "parents" then pure 0
          else complainMaking path .eexist

/-- The error numbers that may mean that a directory is not empty. -/
def mayBeFilled : List Errno := [.eacces, .eperm, ⟨30⟩, ⟨16⟩]

/-- A directory that is not removed because it is not empty may be left. -/
def mayStay (o : Options) (path : Bytes) (e : Errno) : Job Bool := do
  if !o.has "ignore-fail-on-non-empty" then pure false
  else if e = .enotempty ∨ e = .eexist then pure true
  else if mayBeFilled.contains e then
    match ← Job.call (.list ⟨path⟩) with
    | .ok names => pure (names ≠ [])
    | .error _ => pure false
  else pure false

/-- The text of a failure to remove; a link with a slash behind it is not followed. -/
def reasonOf (path : Bytes) (e : Errno) : Job Bytes := do
  if e = .enotdir ∧ path.getLast? = some Path.slash then
    match ← Job.call (.examine ⟨path⟩ true), ← Job.call (.examine ⟨Naming.withoutSlashes path⟩ false) with
    | .ok status, .ok own =>
      if status.kind = .directory ∧ own.kind = .link then pure (Utf8.encode ": Symbolic link not followed")
      else pure (Job.because e)
    | _, _ => pure (Job.because e)
  else pure (Job.because e)

/-- Removes the directories that a path leads through, the last one first, as long as they are empty. -/
def removeParents (o : Options) (line : Bytes) : List Bytes → Job Nat
  | [] => pure 0
  | path :: more => do
    announce (o.has "verbose") line path
    match ← Job.call (.removeDirectory ⟨path⟩) with
    | .ok () => removeParents o line more
    | .error e =>
      if ← mayStay o path e then pure 0
      else
        Job.complainOf (Utf8.encode "failed to remove directory " ++ Quoting.always path) e
        pure 1

/-- Removes empty directories. -/
def remove : Job Nat := do
  let o ← Job.options "p|parents path v|verbose ignore-fail-on-non-empty"
  if o.operands = [] then Job.refuseText "missing operand"
  else
    let line := (← Job.name) ++ Utf8.encode ": removing directory,"
    Job.forEach o.operands fun path => do
      announce (o.has "verbose") line path
      match ← Job.call (.removeDirectory ⟨path⟩) with
      | .ok () =>
        if o.has "parents" ∨ o.has "path" then removeParents o line (parents (Naming.withoutSlashes path)).reverse
        else pure 0
      | .error e =>
        if ← mayStay o path e then pure 0
        else
          Job.complain (Utf8.encode "failed to remove " ++ Quoting.always path ++ (← reasonOf path e))
          pure 1

end LineShell.Machine.Directories
