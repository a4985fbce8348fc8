import LineShell.Machine.Opening
import LineShell.Machine.Tools.Asking
import LineShell.Machine.Tools.Choice
import LineShell.Machine.Tools.Naming

/-!
Removing entries, and directories with all that is in them: first what they hold, then themselves. A directory in
which something stays is left alone.
-/

namespace LineShell.Machine.Removing

/-- How much is asked before something is removed. -/
inductive Caution where
  | never
  | sometimes
  | always
  deriving DecidableEq, Repr

/-- The words for how much is asked. -/
def cautions : List (String × Caution) :=
  [("never", .never), ("no", .never), ("none", .never), ("once", .sometimes), ("always", .always), ("yes", .always)]

/-- How entries are removed. -/
structure Style where
  caution : Caution := .sometimes
  ignoresMissing : Bool := false
  asksOnce : Bool := false
  recursive : Bool := false
  emptyDirectories : Bool := false
  keepsRoot : Bool := true
  isVerbose : Bool := false

/-- What is still to be done: something with an entry, or with a directory when all in it has been dealt with. -/
inductive Task where
  | visit (path : Bytes) (isOperand : Bool)
  | remove (path : Bytes) (unreadable : Option Errno)

/-- Where the removing stands: what is left, the directories that are entered, each with whether something stays
in it, and whether something has failed. -/
structure Progress where
  tasks : List Task
  entered : List Bool := []
  hasFailed : Bool := false

/-- Something stays in all directories that are entered. -/
def Progress.marked (p : Progress) : Progress := { p with entered := p.entered.map fun _ => true }

/-- Complains about an entry that cannot be removed. -/
def complain (path : Bytes) (e : Errno) : Job Unit :=
  Job.complainOf (Utf8.encode "cannot remove " ++ Quoting.always path) e

/-- What an entry is called in questions. -/
def describe (status : EntryStatus) : String :=
  match status.kind with
  | .directory => "directory"
  | .file => if status.size = 0 then "regular empty file" else "regular file"
  | .link => "symbolic link"
  | .device => "character special file"
  | .pipe => "fifo"

/-- The directory has nothing in it. -/
def isEmptyDirectory (path : Bytes) : Job Bool := do
  match ← Job.call (.list ⟨path⟩) with
  | .ok names => pure names.isEmpty
  | .error _ => pure false

/-- The answer to a question about an entry, if there is one to be put. -/
def isAgreed (s : Style) (verb : String) (path : Bytes) (status : EntryStatus) : Job Bool := do
  if s.caution ≠ .always then pure true
  else
    let isProtected := status.kind ≠ .link && !isWritable status.mode
    let what := if verb = "descend into" then "directory" else describe status
    let kind := (if isProtected then "write-protected " else "") ++ what
    Job.isConfirmed (Utf8.encode s!"{verb} {kind} " ++ Quoting.always path ++ Utf8.encode "? ")

/-- Removes one entry. -/
def erase (s : Style) (p : Progress) (path : Bytes) (isDirectory : Bool) (unreadable : Option Errno) :
    Job Progress := do
  let result : Except Errno Unit ←
    if isDirectory then Job.call (.removeDirectory ⟨path⟩) else Job.call (.unlink ⟨path⟩)
  match result with
  | .ok () =>
    if s.isVerbose then
      Job.printLine (Utf8.encode (if isDirectory then "removed directory " else "removed ") ++ Quoting.always path)
    pure p
  | .error e =>
    if s.ignoresMissing ∧ (e = .enoent ∨ e = .enotdir ∨ e = .einval) then pure p
    else
      let e := match unreadable with
        | some why => if e = .enotempty ∨ e = .eisdir ∨ e = .enotdir ∨ e = .eexist then why else e
        | none => e
      complain path e
      pure { p.marked with hasFailed := true }

/-- Refuses to remove a directory that must stay; it says so. -/
def isRefused (s : Style) (path : Bytes) : Job Bool := do
  let last := Naming.baseName path
  if last = dot ∨ last = dotDot then
    Job.complain (Utf8.encode "refusing to remove '.' or '..' directory: skipping " ++ Quoting.always path)
    pure true
  else if s.keepsRoot ∧ path.all (· == Path.slash) then
    Job.complainText (if path.length = 1 then "it is dangerous to operate recursively on '/'"
      else "it is dangerous to operate recursively on " ++ "'" ++ String.ofList (path.map fun _ => '/') ++ "' (same as '/')")
    Job.complainText "use --no-preserve-root to override this failsafe"
    pure true
  else pure false

/-- The path of an entry of a directory. -/
def pathIn (directory name : Bytes) : Bytes :=
  if directory.getLast? = some Path.slash then directory ++ name else directory ++ [Path.slash] ++ name

/-- Deals with a directory when it is met first. -/
def enter (s : Style) (p : Progress) (path : Bytes) (isOperand : Bool) (status : EntryStatus) : Job Progress := do
  let isEmpty ← isEmptyDirectory path
  let failed : Progress := { p.marked with hasFailed := true }
  if !s.recursive ∧ !(s.emptyDirectories && isEmpty) then
    complain path (if s.emptyDirectories then .enotempty else .eisdir)
    pure failed
  else if ← (if isOperand then isRefused s path else pure false) then pure failed
  else if isEmpty then
    if ← isAgreed s "remove" path status then erase s p path true none else pure p.marked
  else if ← isAgreed s "descend into" path status then
    match ← Job.call (.list ⟨path⟩) with
    | .ok names =>
      let tasks := (names.map fun n => Task.visit (pathIn path n) false) ++ Task.remove path none :: p.tasks
      pure { p with tasks, entered := false :: p.entered }
    | .error e => pure { p with tasks := Task.remove path (some e) :: p.tasks, entered := false :: p.entered }
  else pure p.marked

/-- Deals with an entry. -/
def visit (s : Style) (p : Progress) (path : Bytes) (isOperand : Bool) : Job Progress := do
  match ← Job.call (.examine ⟨path⟩ false) with
  | .error e =>
    if s.ignoresMissing ∧ (e = .enoent ∨ e = .enotdir) then pure p
    else
      complain path e
      pure { p.marked with hasFailed := true }
  | .ok status =>
    if status.kind = .directory then enter s p path isOperand status
    else if ← isAgreed s "remove" path status then erase s p path false none
    else pure p.marked

/-- Removes a directory in which all has been dealt with. -/
def leave (s : Style) (p : Progress) (path : Bytes) (unreadable : Option Errno) : Job Progress := do
  let isKept := p.entered.head? = some true
  let p := { p with entered := p.entered.drop 1 }
  if isKept then pure p
  else
    match ← Job.call (.examine ⟨path⟩ false) with
    | .error e =>
      complain path e
      pure { p.marked with hasFailed := true }
    | .ok status =>
      if ← isAgreed s "remove" path status then erase s p path true unreadable else pure p.marked

/-- Does all that is left. -/
def removeAll (s : Style) (p : Progress) : Job Bool :=
  Job.loop p fun p =>
    match p.tasks with
    | [] => pure (.inr p.hasFailed)
    | .visit path isOperand :: tasks => do pure (.inl (← visit s { p with tasks } path isOperand))
    | .remove path unreadable :: tasks => do pure (.inl (← leave s { p with tasks } path unreadable))

/-- The style after one more option. -/
def styleStep (s : Style) (option : String × Option Bytes) : Job Style := do
  match option with
  | ("force", _) => pure { s with caution := .never, ignoresMissing := true, asksOnce := false }
  | ("i", _) => pure { s with caution := .always, ignoresMissing := false, asksOnce := false }
  | ("I", _) => pure { s with caution := .sometimes, ignoresMissing := false, asksOnce := true }
  | ("interactive", word) =>
    let caution ← match word with
      | none => pure Caution.always
      | some word => Job.choice "--interactive" cautions word
    match caution with
    | .never => pure { s with caution, asksOnce := false }
    | .sometimes => pure { s with caution, ignoresMissing := false, asksOnce := true }
    | .always => pure { s with caution, ignoresMissing := false, asksOnce := false }
  | ("recursive", _) | ("R", _) => pure { s with recursive := true }
  | ("dir", _) => pure { s with emptyDirectories := true }
  | ("verbose", _) => pure { s with isVerbose := true }
  | ("no-preserve-root", _) => pure { s with keepsRoot := false }
  | ("preserve-root", _) => pure { s with keepsRoot := true }
  | _ => pure s

/-- Removes entries. -/
def run : Job Nat := do
  let o ← Job.options
    "d|dir f|force i I r|recursive R v|verbose interactive=? one-file-system no-preserve-root preserve-root=?"
  let s ← o.given.foldlM styleStep {}
  let count := o.operands.length
  if o.operands = [] then
    if s.ignoresMissing then pure 0 else Job.refuseText "missing operand"
  else
    let what := (if count = 1 then "argument" else "arguments") ++ if s.recursive then " recursively" else ""
    let goesOn ← if s.asksOnce ∧ (s.recursive ∨ 3 < count) then
        Job.isConfirmed (Utf8.encode s!"remove {count} {what}? ")
      else pure true
    if !goesOn then pure 0
    else
      let failures ← o.operands.mapM fun path => removeAll s { tasks := [.visit path true] }
      pure (if failures.any id then 1 else 0)

/-- Removes one entry. -/
def unlink : Job Nat := do
  let o ← Job.options ""
  match o.operands with
  | [] => Job.refuseText "missing operand"
  | [path] =>
    match ← Job.call (.unlink ⟨path⟩) with
    | .ok () => pure 0
    | .error e => Job.failOf (Utf8.encode "cannot unlink " ++ Quoting.always path) e
  | _ :: extra :: _ => Job.refuse (Utf8.encode "extra operand " ++ Quoting.plain extra)

end LineShell.Machine.Removing
