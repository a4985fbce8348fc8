import LineShell.Machine.Tools.Directories

/-!
Changing the rights of entries, of directories also with all that is in them.
-/

namespace LineShell.Machine.Permissions

/-- How much is said about what has been done. -/
inductive Report where
  | nothing
  | changes
  | everything
  deriving DecidableEq, Repr

/-- How rights are changed. -/
structure Style where
  change : Rights.Change
  mask : Nat
  report : Report := .nothing
  isSilent : Bool := false
  recursive : Bool := false
  warnsOfMask : Bool := false

/-- The letters of options that are no rights. -/
def optionLetters : Bytes := Utf8.encode "Rcfv"

/-- The bytes that an option may begin with that asks for rights. -/
def rightsLetters : Bytes := Utf8.encode "rwxXstugoa,+=01234567"

/-- The argument is an option that asks for rights. -/
def asksForRights (arg : Bytes) : Bool :=
  match arg with
  | 0x2D :: rest => (rest.dropWhile optionLetters.contains).head?.any rightsLetters.contains
  | _ => false

/-- Takes out the options that ask for rights. -/
def separate : List Bytes → List Bytes × List Bytes
  | [] => ([], [])
  | [0x2D, 0x2D] :: rest => ([], [0x2D, 0x2D] :: rest)
  | arg :: rest =>
    let (rights, others) := separate rest
    if asksForRights arg then (arg :: rights, others) else (rights, arg :: others)

/-- Complains unless that is not wanted. -/
def complain (s : Style) (message : Bytes) : Job Unit := do
  if !s.isSilent then Job.complain message

/-- The rights as numbers and letters. -/
def describe (mode : Nat) : String := s!"{Rights.octal mode} ({Rights.text mode})"

/-- Says what has become of the rights of an entry. -/
def tell (s : Style) (path : Bytes) (old new : Nat) (failed : Bool) : Job Unit := do
  let line (front back : String) : Job Unit :=
    Job.printLine (Utf8.encode front ++ Quoting.always path ++ Utf8.encode back)
  let isChange := !failed && old ≠ new
  if s.report = .everything ∨ (s.report = .changes ∧ isChange) then
    if failed then line "failed to change mode of " s!" from {describe old} to {describe new}"
    else if isChange then line "mode of " s!" changed from {describe old} to {describe new}"
    else line "mode of " s!" retained as {describe new}"

/-- Changes the rights of one entry. -/
def changeOne (s : Style) (path : Bytes) (status : EntryStatus) : Job Nat := do
  let isDirectory := status.kind == .directory
  let new := s.change.apply isDirectory s.mask status.mode
  match ← Job.call (.changeMode ⟨path⟩ new) with
  | .error e =>
    complain s (Utf8.encode "changing permissions of " ++ Quoting.always path ++ Job.because e)
    tell s path status.mode new true
    pure 1
  | .ok () =>
    tell s path status.mode new false
    let expected := s.change.apply isDirectory 0 status.mode
    if s.warnsOfMask ∧ Rights.without new expected ≠ 0 then
      Job.complain (Quoting.ifNeeded path ++
        Utf8.encode s!": new permissions are {Rights.text new}, not {Rights.text expected}")
      pure 1
    else pure 0

/-- Entries that are left, each with whether it is an operand. -/
abbrev Tasks := List (Bytes × Bool)

/-- Changes the rights of an entry; the entries of a directory may be left then. -/
def visit (s : Style) (path : Bytes) (isOperand : Bool) : Job (Nat × Tasks) := do
  let own : Except Errno EntryStatus ← Job.call (.examine ⟨path⟩ false)
  let isLink : Bool := match own with
    | .ok status => status.kind == .link
    | .error _ => false
  if isLink ∧ !isOperand then pure (0, [])
  else
    let status : Except Errno EntryStatus ← if isLink then Job.call (.examine ⟨path⟩ true) else pure own
    match status with
    | .error e =>
      if isLink then complain s (Utf8.encode "cannot operate on dangling symlink " ++ Quoting.always path)
      else complain s (Utf8.encode "cannot access " ++ Quoting.always path ++ Job.because e)
      if s.report = .everything then
        Job.printLine (Quoting.always path ++ Utf8.encode " could not be accessed")
      pure (1, [])
    | .ok status =>
      let code ← changeOne s path status
      if s.recursive ∧ status.kind = .directory then
        match ← Job.call (.list ⟨path⟩) with
        | .ok names =>
          let front := if path.getLast? = some Path.slash then path else path ++ [Path.slash]
          pure (code, names.map fun n => (front ++ n, false))
        | .error e =>
          complain s (Utf8.encode "cannot read directory " ++ Quoting.always path ++ Job.because e)
          pure (1, [])
      else pure (code, [])

/-- Changes the rights of entries and of what is in them. -/
def changeAll (s : Style) (tasks : Tasks) : Job Nat :=
  Job.loop (0, tasks) fun (code, tasks) =>
    match tasks with
    | [] => pure (.inr code)
    | (path, isOperand) :: rest => do
      let (c, inner) ← visit s path isOperand
      pure (.inl (max code c, inner ++ rest))

/-- Changes the rights of entries. -/
def run : Job Nat := do
  let (rights, args) := separate (← Job.args)
  let o ← Job.optionsOf
    "R|recursive c|changes f|silent quiet v|verbose preserve-root no-preserve-root reference=" true args
  let last := (← Job.args).getLast?.getD []
  let (text, operands) := match rights, o.value? "reference", o.operands with
    | [], none, text :: operands => (some text, operands)
    | [], _, operands => (none, operands)
    | rights, _, operands => (some ([0x2C].intercalate rights), operands)
  if !rights.isEmpty ∧ o.has "reference" then
    Job.refuseText "cannot combine mode and --reference options"
  else if operands = [] then
    if o.operands = [] then Job.refuseText "missing operand"
    else Job.refuse (Utf8.encode "missing operand after " ++ Quoting.plain last)
  else
    let change : Rights.Change ← match o.value? "reference", text with
      | some path, _ =>
        match ← Job.call (.examine ⟨path⟩ true) with
        | .ok status => pure [Rights.Step.mk .assign .plain Rights.all status.mode Rights.all]
        | .error e => Job.failOf (Utf8.encode "failed to get attributes of " ++ Quoting.always path) e
      | none, text =>
        let text := text.getD []
        match Rights.read? text with
        | some change => pure change
        | none => Job.refuse (Utf8.encode "invalid mode: " ++ Quoting.plain text)
    let style : Style := {
      change, mask := ← Directories.mask
      report := match o.last? ["changes", "verbose"] with
        | some "changes" => .changes
        | some _ => .everything
        | none => .nothing
      isSilent := o.has "silent" || o.has "quiet", recursive := o.has "recursive"
      warnsOfMask := !rights.isEmpty }
    if style.recursive ∧ operands.any (fun p => p ≠ [] && p.all (· == Path.slash)) ∧
        o.last? ["preserve-root", "no-preserve-root"] = some "preserve-root" then
      Job.complainText "it is dangerous to operate recursively on '/'"
      Job.complainText "use --no-preserve-root to override this failsafe"
      pure 1
    else changeAll style (operands.map fun path => (path, true))

end LineShell.Machine.Permissions
