import LineShell.Machine.Printing.Numeral
import LineShell.Machine.Tools.Asking
import LineShell.Machine.Tools.Choice
import LineShell.Machine.Tools.Naming

/-!
Putting entries to places: which of the operands say what is put and which where, and what becomes of an entry
that stands there already.
-/

namespace LineShell.Machine.Placing

/-- A name in a directory, as a path. -/
def join (directory name : Bytes) : Bytes :=
  if name = [] then
    if directory.getLast? = some Path.slash then directory else directory ++ [Path.slash]
  else
    let name := if directory = [] then name else name.dropWhile (· == Path.slash)
    if directory = [] ∨ directory.getLast? = some Path.slash then directory ++ name
    else directory ++ [Path.slash] ++ name

/-- The last name of a path, with the slashes behind it. -/
def lastComponent (path : Bytes) : Bytes :=
  let name := Naming.baseName path
  if name = [Path.slash] then [] else name

/-- Two paths name the same entry of the same directory. -/
def isSameName (a b : Bytes) : Job Bool := do
  if Naming.baseName a = Naming.baseName b then Naming.isSame (Naming.directoryName a) (Naming.directoryName b)
  else pure false

/-- What is put somewhere, and where. -/
inductive Goal where
  | into (directory : Bytes) (sources : List Bytes)
  | onto (source goal : Bytes)
  deriving DecidableEq, Repr

/-- A directory that things can be put into, or why it is none. -/
def asDirectory (path : Bytes) : Job (Except Errno Unit) := do
  match ← Job.call (.examine ⟨path⟩ true) with
  | .error e => pure (.error e)
  | .ok status =>
    if status.kind ≠ .directory then pure (.error .enotdir)
    else
      let inside : Except Errno EntryStatus ← Job.call (.examine ⟨path ++ [Path.slash, 0x2E]⟩ true)
      pure (inside.map fun _ => ())

/-- Complains about operands of which there are too few. -/
def refuseFew {α : Type} (operands : List Bytes) : Job α :=
  match operands with
  | [] => Job.refuseText "missing file operand"
  | first :: _ => Job.refuse (Utf8.encode "missing destination file operand after " ++ Quoting.always first)

/-- What operands and options say about where things are put. `tries` says that the last of two operands need
not be looked at. -/
def goalOf (o : Options) (tries : Bool) : Job Goal := do
  let operands := o.operands
  match o.value? "target-directory", o.has "no-target-directory" with
  | some _, true =>
    if operands = [] then refuseFew operands
    else Job.failText "cannot combine --target-directory (-t) and --no-target-directory (-T)"
  | some directory, false =>
    if operands = [] then refuseFew operands
    else
      match ← asDirectory directory with
      | .ok () => pure (.into directory operands)
      | .error e => Job.failOf (Utf8.encode "target directory " ++ Quoting.always directory) e
  | none, true =>
    match operands with
    | [source, goal] => pure (.onto source goal)
    | _ :: _ :: extra :: _ => Job.refuse (Utf8.encode "extra operand " ++ Quoting.always extra)
    | few => refuseFew few
  | none, false =>
    match operands with
    | [source, goal] =>
      if tries then pure (.onto source goal)
      else
        match ← asDirectory goal with
        | .ok () => pure (.into goal [source])
        | .error _ => pure (.onto source goal)
    | _ :: _ :: _ =>
      let goal := operands.getLast?.getD []
      match ← asDirectory goal with
      | .ok () => pure (.into goal operands.dropLast)
      | .error e => Job.failOf (Utf8.encode "target " ++ Quoting.always goal) e
    | few => refuseFew few

/-! ### Copies of what is replaced -/

/-- How a copy of what is replaced is named. -/
inductive BackupKind where
  | none
  | simple
  | existing
  | numbered
  deriving DecidableEq, Repr

/-- The words for how copies are named. -/
def backupKinds : List (String × BackupKind) :=
  [("none", .none), ("off", .none), ("simple", .simple), ("never", .simple), ("existing", .existing), ("nil", .existing),
    ("numbered", .numbered), ("t", .numbered)]

/-- How copies of what is replaced are made. -/
structure Backup where
  kind : BackupKind := .none
  suffix : Bytes := [0x7E]
  deriving DecidableEq, Repr

/-- The copies that options ask for. -/
def backupOf (o : Options) : Job Backup := do
  let given := o.has "backup" || o.has "b" || o.has "suffix"
  let suffix := match o.value? "suffix" with
    | some s => some s
    | none => none
  let suffix ← match suffix with
    | some s => pure s
    | none => do pure ((← Job.variableValue "SIMPLE_BACKUP_SUFFIX").getD [0x7E])
  let suffix := if suffix = [] ∨ suffix.contains Path.slash then [0x7E] else suffix
  if !given then pure {}
  else
    let word ← match o.value? "backup" with
      | some word => pure (some ("backup type", word))
      | none => do pure ((← Job.variableValue "VERSION_CONTROL").map fun w => ("$VERSION_CONTROL", w))
    match word with
    | none | some (_, []) => pure { kind := .existing, suffix }
    | some (what, word) =>
      match choose backupKinds word with
      | .ok kind => pure { kind, suffix }
      | .error fault =>
        let kind := if fault = .unknown then "invalid" else "ambiguous"
        Job.complain (Utf8.encode (kind ++ " argument ") ++ Quoting.plain word ++ Utf8.encode s!" for '{what}'")
        Job.writeError (Utf8.encode ("Valid arguments are:" ++ listChoices backupKinds none))
        Job.hint
        Job.exit 1

/-- The number of a numbered copy of a name. -/
def copyNumber? (name copy : Bytes) : Option Nat :=
  let front := name ++ Utf8.encode ".~"
  if front.isPrefixOf copy ∧ copy.getLast? = some 0x7E then
    let ds := (copy.drop front.length).dropLast
    if ds ≠ [] ∧ ds.all Numeral.isDigit ∧ ds.head? ≠ some 0x30 then some (Numeral.valueOf 10 ds) else none
  else none

/-- The greatest number of a copy of an entry. -/
def lastCopy (path : Bytes) : Job Nat := do
  let directory := Naming.directoryName path
  let name := Naming.baseName path
  match ← Job.call (.list ⟨directory⟩) with
  | .ok names => pure ((names.filterMap (copyNumber? name)).foldl max 0)
  | .error _ => pure 0

/-- The path of the copy of an entry. -/
def Backup.pathOf (b : Backup) (path : Bytes) : Job Bytes := do
  let path := Naming.withoutSlashes path
  let last ← if b.kind = .simple then pure 0 else lastCopy path
  if b.kind = .numbered ∨ (b.kind = .existing ∧ 0 < last) then
    pure (path ++ Utf8.encode s!".~{last + 1}~")
  else pure (path ++ b.suffix)

/-- Moves what stands at a path to where its copy belongs. -/
def Backup.make (b : Backup) (path : Bytes) : Job (Except Errno Bytes) := do
  let copy ← b.pathOf path
  let moved : Except Errno Unit ← Job.call (.rename ⟨path⟩ ⟨copy⟩)
  pure (moved.map fun _ => copy)

end LineShell.Machine.Placing
