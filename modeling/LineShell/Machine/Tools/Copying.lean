import LineShell.Machine.Opening
import LineShell.Machine.Tools.Directories
import LineShell.Machine.Tools.Placing

/-!
Copying entries, directories with all that is in them, and what is done about an entry that stands at the goal
already. It is told apart whether something is moved: then the same questions are put, but nothing is copied.
-/

namespace LineShell.Machine.Copying

/-- Which links of the source are followed. -/
inductive Following where
  | never
  | operands
  | always
  deriving DecidableEq, Repr

/-- What is done about a goal that is there: it is overwritten, not without asking, or never. -/
inductive Overwriting where
  | freely
  | asking
  | never
  deriving DecidableEq, Repr

/-- What is made instead of a copy. -/
inductive Making where
  | copies
  | names
  | links
  deriving DecidableEq, Repr

/-- How entries are copied. -/
structure Style where
  moves : Bool := false
  installs : Bool := false
  following : Following := .always
  recursive : Bool := false
  overwriting : Overwriting := .freely
  onlyNewer : Bool := false
  backup : Placing.Backup := {}
  removesFirst : Bool := false
  removesOnFailure : Bool := false
  making : Making := .copies
  keepsMode : Bool := false
  keepsTime : Bool := false
  keepsNames : Bool := false
  dropsMode : Bool := false
  mode : Option Nat := none
  copiesData : Bool := true
  remembers : Bool := false
  isVerbose : Bool := false

/-- What has been seen so far: the operands, the goals that have been made, where the entries have been copied
to, whether the operand at hand has led to a new directory, and whether something was to go into itself. -/
structure Memory where
  sources : List (Bytes × Identity) := []
  goals : List (Bytes × Identity) := []
  copied : List (Identity × Bytes) := []
  hasNewDirectory : Bool := false
  goesIntoItself : Bool := false

/-- Copying with a memory. -/
abbrev Copier := StateT Memory Job

/-- Two names in a message. -/
def two (front a between b back : String) (x y : Bytes) : Bytes :=
  Utf8.encode (front ++ a) ++ Quoting.always x ++ Utf8.encode between ++ Quoting.always y ++ Utf8.encode (b ++ back)

/-- Complains, and says that it has failed. -/
def fails (message : Bytes) : Copier Bool := do
  Job.complain message
  pure false

/-- Complains about a failed call, and says that it has failed. -/
def failsOf (what : String) (path : Bytes) (e : Errno) : Copier Bool := do
  Job.complainOf (Utf8.encode what ++ Quoting.always path) e
  pure false

/-- Names a source and a goal. -/
def pairLine (source goal : Bytes) (copy : Option Bytes) : Bytes :=
  let back := match copy with
    | some copy => Utf8.encode " (backup: " ++ Quoting.always copy ++ Utf8.encode ")"
    | none => []
  Quoting.always source ++ Utf8.encode " -> " ++ Quoting.always goal ++ back

/-! ### A goal that is there -/

/-- What an entry is, if it is there. -/
def lookUp (path : Bytes) (follows : Bool) : Job (Option EntryStatus) := do
  match ← Job.call (.examine ⟨path⟩ follows) with
  | .ok status => pure (some status)
  | .error _ => pure none

/-- What becomes of a source and a goal that may be the same: they are not in each other's way, nothing needs to be
done, or nothing can be. -/
inductive Sameness where
  | fine
  | finished
  | clash
  deriving DecidableEq, Repr

/-- No clash, unless a condition does not hold. -/
def Sameness.fineIf (condition : Bool) : Sameness := if condition then .fine else .clash

/-- The two links of a source and a goal are compared where links are copied as they are. -/
def compareLinks (s : Style) (source goal : Bytes) (isSame : Bool) : Job Sameness := do
  let sameName ← Placing.isSameName source goal
  if sameName then pure .clash
  else if s.backup.kind ≠ .none then pure .fine
  else if isSame then pure (if s.moves then .clash else .finished)
  else pure .fine

/-- What is left to be compared of a source and a goal when one of them is a link or has several names. -/
def compareRest (s : Style) (source goal : Bytes) (own there : EntryStatus) : Job Sameness := do
  let isLink (t : EntryStatus) : Bool := t.kind == .link
  let isSameEntry := own.identity == there.identity
  if s.moves ∧ isLink own ∧ 1 < there.links then
    match ← Naming.resolve .all true source with
    | .ok names => do
      pure (.fineIf !(← Placing.isSameName (Path.ofNames names).bytes goal))
    | .error _ => pure .clash
  else if s.making = .links ∧ isLink there then pure .fine
  else if s.following = .never then
    let followed ← lookUp source true
    let reached ← lookUp goal true
    match followed, reached with
    | some a, some b =>
      if a.identity ≠ b.identity then pure .fine
      else if s.making = .names then pure (if isLink there then .fine else .finished)
      else pure .clash
    | _, _ => pure .fine
  else pure (.fineIf (!isSameEntry && !isLink own && !isLink there))

/-- Compares a source and a goal, as they are and with their links followed. -/
def compare (s : Style) (source goal : Bytes) (own there : EntryStatus) : Job Sameness := do
  let isSame := own.identity == there.identity
  let isLink (t : EntryStatus) : Bool := t.kind == .link
  if isSame ∧ s.making = .names then pure .finished
  else if s.following = .never ∧ isLink own ∧ isLink there then compareLinks s source goal isSame
  else if s.following ≠ .never ∧ !isSame then pure .fine
  else
    let ownLink ← if s.following = .never then pure (some own) else lookUp source false
    let goalLink ← if s.following = .never then pure (some there) else lookUp goal false
    match ownLink, goalLink with
    | some a, some b =>
      let isSameLink := a.identity == b.identity
      if s.following ≠ .never ∧ isLink a ∧ isLink b ∧ s.removesFirst then pure .fine
      else if s.backup.kind ≠ .none then
        if !isSame then pure .fine
        else if !s.moves ∧ s.following ≠ .never ∧ isLink a ∧ !isLink b then pure .clash
        else pure (.fineIf !(← Placing.isSameName source goal))
      else if (s.moves ∨ s.removesFirst) ∧ isLink b then pure .fine
      else if (s.moves ∨ s.removesFirst) ∧ isSameLink ∧ 1 < b.links ∧ !(← Placing.isSameName source goal) then
        pure (.fineIf !s.moves)
      else if !isLink a ∧ !isLink b ∧ !isSameLink then pure .fine
      else if !isLink a ∧ !isLink b ∧ s.making = .names then pure .finished
      else compareRest s source goal a b
    | _, _ => pure .fine

/-- Asks whether a goal is to be overwritten. -/
def isAgreed (s : Style) (goal : Bytes) (there : EntryStatus) : Job Bool := do
  let rights := s!"{Rights.octal there.mode} ({Rights.text there.mode})"
  if there.kind = .link ∨ isWritable there.mode then
    Job.isConfirmed (Utf8.encode "overwrite " ++ Quoting.always goal ++ Utf8.encode "? ")
  else if s.moves ∨ s.removesFirst ∨ s.removesOnFailure then
    Job.isConfirmed (Utf8.encode "replace " ++ Quoting.always goal ++ Utf8.encode s!", overriding mode {rights}? ")
  else
    Job.isConfirmed (Utf8.encode "unwritable " ++ Quoting.always goal ++
      Utf8.encode s!" (mode {Rights.octal there.mode}, {Rights.text there.mode}); try anyway? ")

/-- What is done about a goal that is there. -/
inductive Meeting where
  | failed
  | left
  | goesOn (isNew : Bool) (copy : Option Bytes)

/-- The goal is left as it is. -/
def isLeft (s : Style) (goal : Bytes) (own there : EntryStatus) : Job Bool := do
  let isDirectory := own.kind == .directory
  if s.onlyNewer ∧ !isDirectory ∧ own.time ≤ there.time then pure true
  else if isDirectory ∧ !s.moves then pure false
  else
    match s.overwriting with
    | .never => pure true
    | .asking => do pure !(← isAgreed s goal there)
    | .freely => pure false

/-- The copy of a goal would take the place of the source. -/
def destroysSource (s : Style) (source goal : Bytes) (own : EntryStatus) : Job Bool := do
  if s.backup.kind = .numbered ∨ Naming.baseName source ≠ Naming.baseName goal ++ s.backup.suffix then pure false
  else
    match ← lookUp (goal ++ s.backup.suffix) true with
    | some status => pure (status.identity == own.identity)
    | none => pure false

/-- Makes room at a goal that is to be replaced. -/
def makeRoom (s : Style) (source goal : Bytes) (own there : EntryStatus) : Job Meeting := do
  let name := Naming.baseName source
  let isDirectory := there.kind == .directory
  if s.backup.kind ≠ .none ∧ name ≠ dot ∧ name ≠ dotDot ∧ (s.moves ∨ !isDirectory) then
    if ← destroysSource s source goal own then
      let what := if s.moves then " not moved" else " not copied"
      Job.complain (two "" "backing up " " might destroy source;  " what "" goal source)
      pure .failed
    else
      match ← s.backup.make goal with
      | .ok copy => pure (.goesOn true (some copy))
      | .error e =>
        if e = .enoent then pure (.goesOn true none)
        else
          Job.complainOf (Utf8.encode "cannot backup " ++ Quoting.always goal) e
          pure .failed
  else if !isDirectory ∧ !s.moves ∧ (s.removesFirst ∨ (s.copiesData ∧
      ((s.keepsNames ∧ 1 < there.links) ∨ (s.following = .never ∧ own.kind ≠ .file)))) then
    match ← Job.call (.unlink ⟨goal⟩) with
    | .error e =>
      if e = .enoent then pure (.goesOn true none)
      else
        Job.complainOf (Utf8.encode "cannot remove " ++ Quoting.always goal) e
        pure .failed
    | .ok () =>
      if s.isVerbose then Job.printLine (Utf8.encode "removed " ++ Quoting.always goal)
      pure (.goesOn true none)
  else pure (.goesOn false none)

/-- Deals with a goal that is there. -/
def meet (s : Style) (source goal : Bytes) (own there : EntryStatus) (isOperand : Bool) : Copier Meeting := do
  let clash (message : Bytes) : Copier Meeting := do
    Job.complain message
    pure .failed
  let sameness : Sameness ← if s.overwriting = .never then pure Sameness.fine else compare s source goal own there
  let isDirectory := own.kind == .directory
  let isOnDirectory := there.kind == .directory
  let keepsCopy := s.moves && s.backup.kind != .none
  if sameness = .clash then clash (two "" "" " and " " are the same file" "" source goal)
  else if ← isLeft s goal own there then pure .left
  else if sameness = .finished then pure .left
  else if !isOnDirectory ∧ isDirectory ∧ !keepsCopy then
    clash (two "" "cannot overwrite non-directory " " with directory " "" "" goal source)
  else if !isOnDirectory ∧ isOperand ∧ s.backup.kind ≠ .numbered ∧ (← get).goals.contains (goal, there.identity) then
    clash (two "" "will not overwrite just-created " " with " "" "" goal source)
  else if isOnDirectory ∧ !isDirectory ∧ !keepsCopy then
    clash (Utf8.encode "cannot overwrite directory " ++ Quoting.always goal ++ Utf8.encode " with non-directory")
  else makeRoom s source goal own there

/-! ### Copies -/

/-- How much is copied at a time. -/
def chunkSize : Nat := 131072

/-- Copies what is left of one stream to another one. -/
def pour (source goal : Bytes) (input output : Nat) : Job Bool := do
  let (isFine, failure) ← Job.forChunks input chunkSize true fun _ chunk => do
    match ← Job.writeTo output chunk with
    | .ok () => pure (true, true)
    | .error e =>
      Job.complainOf (Utf8.encode "error writing " ++ Quoting.always goal) e
      pure (false, false)
  match failure with
  | none => pure isFine
  | some e =>
    Job.complainOf (Utf8.encode "error reading " ++ Quoting.always source) e
    pure false

/-- Opens a goal that is there. -/
def openThere (s : Style) (goal : Bytes) : Job (Except Errno Nat) :=
  Job.call (.openFile ⟨goal⟩ { writes := true, truncates := s.copiesData })

/-- Opens a goal that is not there. -/
def openNew (goal : Bytes) (mode : Nat) : Job (Except Errno Nat) :=
  Job.call (.openFile ⟨goal⟩ { writes := true, creates := true, isExclusive := true, rights := mode &&& 0o777 })

/-- The stream that a copy is written to, and whether it is new; it is said why if there is none. -/
def openGoal (s : Style) (goal : Bytes) (mode : Nat) (isNew : Bool) : Copier (Option (Nat × Bool)) := do
  let refuse (e : Errno) : Copier (Option (Nat × Bool)) := do
    let _ ← failsOf "cannot create regular file " goal e
    pure none
  let make : Copier (Option (Nat × Bool)) := do
    match ← openNew goal mode with
    | .ok stream => pure (some (stream, true))
    | .error e =>
      let isLink := ((← lookUp goal false).map EntryStatus.kind) == some .link
      if e = .eexist ∧ isLink then
        Job.complain (Utf8.encode "not writing through dangling symlink " ++ Quoting.always goal)
        pure none
      else refuse (if goal.getLast? = some Path.slash ∧ e = .eisdir then .enotdir else e)
  if isNew then make
  else
    match ← openThere s goal with
    | .ok stream => pure (some (stream, false))
    | .error e =>
      if e ≠ .enoent ∧ s.removesOnFailure then
        match ← Job.call (.unlink ⟨goal⟩) with
        | .ok () =>
          if s.isVerbose then Job.printLine (Utf8.encode "removed " ++ Quoting.always goal)
          make
        | .error e =>
          let _ ← failsOf "cannot remove " goal e
          pure none
      else if e = .enoent then make
      else refuse e

/-- Gives a copy the rights and the time that it is to have. -/
def finishCopy (s : Style) (goal : Bytes) (own : EntryStatus) (isNew : Bool) : Copier Unit := do
  if s.keepsTime then
    let _ : Except Errno Unit ← Job.call (.changeTime ⟨goal⟩ (some own.time))
  let mode? : Option Nat ←
    if s.keepsMode then pure (some own.mode)
    else match s.mode with
      | some mode => pure (some mode)
      | none =>
        if s.dropsMode ∧ isNew then do
          let base := if own.kind = .directory then 0o777 else 0o666
          pure (some (Rights.without base (← Directories.mask)))
        else pure none
  match mode? with
  | some mode =>
    let _ : Except Errno Unit ← Job.call (.changeMode ⟨goal⟩ mode)
  | none => pure ()

/-- Copies a file. -/
def copyFile (s : Style) (source goal : Bytes) (own : EntryStatus) (isNew : Bool) : Copier Bool := do
  match ← Job.call (.openFile ⟨source⟩ { reads := true }) with
  | .error e =>
    Job.complainOf (Utf8.encode "cannot open " ++ Quoting.always source ++ Utf8.encode " for reading") e
    pure false
  | .ok input =>
    let mode := if s.installs then 0o600 else own.mode
    match ← openGoal s goal mode isNew with
    | none =>
      Job.close input
      pure false
    | some (output, isNew) =>
      let isFine ← if s.copiesData then pour source goal input output else pure true
      Job.close output
      Job.close input
      finishCopy s goal own isNew
      pure isFine

/-- Gives the source a further name. -/
def giveName (s : Style) (source goal : Bytes) : Copier Bool := do
  let link : Job (Except Errno Unit) := do
    if s.following = .never then Job.call (.link ⟨source⟩ ⟨goal⟩)
    else
      match ← Job.call (.resolve ⟨source⟩) with
      | .ok path => Job.call (.link ⟨path⟩ ⟨goal⟩)
      | .error e => pure (.error e)
  let first ← link
  let result ← match first with
    | .error e =>
      if e = .eexist ∧ (s.removesOnFailure ∨ s.overwriting = .asking) then
        let _ : Except Errno Unit ← Job.call (.unlink ⟨goal⟩)
        link
      else pure first
    | .ok () => pure first
  match result with
  | .ok () => pure true
  | .error e =>
    Job.complainOf (two "" "cannot create hard link " " to " "" "" goal source) e
    pure false

/-- Makes a link that holds a path. -/
def makeLink (s : Style) (target goal : Bytes) : Job (Except Errno Unit) := do
  match ← Job.call (.makeLink target ⟨goal⟩) with
  | .ok () => pure (.ok ())
  | .error e =>
    if e = .eexist ∧ s.removesOnFailure then
      let _ : Except Errno Unit ← Job.call (.unlink ⟨goal⟩)
      Job.call (.makeLink target ⟨goal⟩)
    else pure (.error e)

/-- Makes a link that holds the path of the source. -/
def linkSource (s : Style) (source goal : Bytes) : Copier Bool := do
  let isHere ← if (⟨source⟩ : Path).isAbsolute then pure true else Naming.isSame dot (Naming.directoryName goal)
  if !isHere then
    fails (Quoting.ifNeeded goal ++ Utf8.encode ": can make relative symbolic links only in current directory")
  else
    match ← makeLink s source goal with
    | .ok () => pure true
    | .error e =>
      Job.complainOf (two "" "cannot create symbolic link " " to " "" "" goal source) e
      pure false

/-- Copies a link. -/
def copyLink (s : Style) (source goal : Bytes) : Copier Bool := do
  match ← Job.call (.readLink ⟨source⟩) with
  | .error e => failsOf "cannot read symbolic link " source e
  | .ok target =>
    match ← makeLink s target goal with
    | .ok () => pure true
    | .error e => failsOf "cannot create symbolic link " goal e

/-- Copies an entry that is no directory. -/
def copyPlain (s : Style) (source goal : Bytes) (own : EntryStatus) (isNew : Bool) : Copier Bool :=
  match s.making with
  | .links => linkSource s source goal
  | .names => giveName s source goal
  | .copies => if own.kind = .link then copyLink s source goal else copyFile s source goal own isNew

/-- The operand and the goal that led to what is being copied, and the directories around it. -/
structure Origin where
  source : Bytes
  goal : Bytes
  around : List Identity := []

/-- What the memory says about an entry that is met: it has been copied already, to where, or not. -/
def recollect (s : Style) (own : EntryStatus) (goal : Bytes) (isOperand : Bool) : Copier (Option Bytes) := do
  let known := (← get).copied.lookup own.identity
  let isMany := s.keepsNames && s.making == .copies &&
    (1 < own.links || (isOperand && s.following == .operands) || s.following == .always)
  if own.kind = .directory then
    if s.recursive ∧ isOperand ∧ known.isNone then
      modify fun m => { m with copied := (own.identity, goal) :: m.copied }
      pure none
    else pure (if s.recursive then known else none)
  else if isMany then
    if known.isNone then modify fun m => { m with copied := (own.identity, goal) :: m.copied }
    pure known
  else pure none

/-- Makes a directory for the copies of what is in another one; the rights that it has in the end are given
back. -/
def makeDirectory (s : Style) (source goal : Bytes) (own : EntryStatus) : Copier (Option (Option Nat)) := do
  let mode := own.mode &&& 0o1777
  match ← Job.call (.makeDirectory ⟨goal⟩ mode) with
  | .error e =>
    let _ ← failsOf "cannot create directory " goal e
    pure none
  | .ok () =>
    let made ← lookUp goal false
    if !(← get).hasNewDirectory then
      modify fun m => {
        m with hasNewDirectory := true, copied := (made.toList.map fun t => (t.identity, goal)) ++ m.copied }
    if s.isVerbose then Job.printLine (pairLine source goal none)
    match made with
    | some t =>
      if t.mode &&& 0o700 = 0o700 then pure (some none)
      else
        let _ : Except Errno Unit ← Job.call (.changeMode ⟨goal⟩ (t.mode ||| 0o700))
        pure (some (some t.mode))
    | none => pure (some none)

/-- Copies a directory, which stands at the goal already or is made there, given how its entries are copied. -/
def copyDirectory (s : Style) (copyInner : Origin → Bytes → Bytes → Copier Bool) (origin : Origin) (source goal : Bytes)
    (own : EntryStatus) (isNew : Bool) (there : Option EntryStatus) : Copier Bool := do
  if origin.around.contains own.identity then
    fails (Utf8.encode "cannot copy cyclic symbolic link " ++ Quoting.always source)
  else
    let isMissing := isNew || !(there.any (·.kind == .directory))
    let made ← if isMissing then makeDirectory s source goal own else pure (some none)
    match made with
    | none => pure false
    | some final =>
      let origin := { origin with around := own.identity :: origin.around }
      let result ← match ← Job.call (.list ⟨source⟩) with
        | .error e => failsOf "cannot access " source e
        | .ok names =>
          names.foldlM (fun (isFine : Bool) name => do
            if (← get).goesIntoItself then pure false
            else do
              let done ← copyInner origin (Placing.join source name) (Placing.join goal name)
              pure (done && isFine)) true
      match final with
      | some mode =>
        if !s.keepsMode then
          let _ : Except Errno Unit ← Job.call (.changeMode ⟨goal⟩ mode)
      | none => pure ()
      if s.keepsMode ∨ s.keepsTime ∨ s.dropsMode then finishCopy s goal own isNew
      pure result

/-- Copies an entry, with a bound on how deep directories lie in each other. -/
def copyEntry (s : Style) : Nat → Origin → Bytes → Bytes → Bool → Copier Bool
  | 0, _, source, _, _ => failsOf "cannot stat " source .enametoolong
  | depth + 1, origin, source, goal, isOperand => do
    let copyInner origin source goal := copyEntry s depth origin source goal false
    let follows := s.following == .always || (isOperand && s.following == .operands)
    match ← Job.call (.examine ⟨source⟩ follows) with
    | .error e => failsOf "cannot stat " source e
    | .ok own =>
      let isDirectory := own.kind == .directory
      let memory ← get
      if isDirectory ∧ !s.recursive then
        fails (Utf8.encode (if s.installs then "omitting directory " else "-r not specified; omitting directory ") ++
          Quoting.always source)
      else if isOperand ∧ s.remembers ∧ !isDirectory ∧ s.backup.kind = .none ∧
          memory.sources.contains (source, own.identity) then
        Job.complain (Utf8.encode "warning: source file " ++ Quoting.always source ++
          Utf8.encode " specified more than once")
        pure true
      else
        if isOperand ∧ s.remembers then
          modify fun m => { m with sources := (source, own.identity) :: m.sources }
        let looksAtLink := isDirectory ∨ own.kind = .link ∨ s.making ≠ .copies ∨ s.backup.kind ≠ .none ∨ s.removesFirst
        let met : Except Bool (Bool × Option EntryStatus × Option Bytes) ←
          match ← Job.call (.examine ⟨goal⟩ !looksAtLink) with
          | .error e =>
            if e = .enoent then pure (.ok (true, none, none))
            else if e = .eloop ∧ s.removesOnFailure then pure (.ok (false, none, none))
            else do pure (.error (← failsOf "cannot stat " goal e))
          | .ok there =>
            match ← meet s source goal own there isOperand with
            | .failed => pure (.error false)
            | .left => pure (.error true)
            | .goesOn isNew copy => pure (.ok (isNew, some there, copy))
        match met with
        | .error result => pure result
        | .ok (isNew, there, copy) =>
          let throughLink ← if isOperand ∧ s.remembers ∧ s.backup.kind = .none then do
              match ← lookUp goal false with
              | some t => pure (t.kind == .link && (← get).goals.contains (goal, t.identity))
              | none => pure false
            else pure false
          if throughLink then
            fails (two "" "will not copy " " through just-created symlink " "" "" source goal)
          else
            if s.isVerbose ∧ !isDirectory then Job.printLine (pairLine source goal copy)
            let result ← match ← recollect s own goal isOperand with
              | some earlier =>
                if isDirectory then
                  if ← Placing.isSameName source earlier then
                    modify fun m => { m with goesIntoItself := true }
                    fails (two "" "cannot copy a directory, " ", into itself, " "" "" origin.source origin.goal)
                  else if ← Placing.isSameName goal earlier then
                    Job.complain (Utf8.encode "warning: source directory " ++ Quoting.always origin.source ++
                      Utf8.encode " specified more than once")
                    pure true
                  else if follows then copyDirectory s copyInner origin source goal own isNew there
                  else fails (two "" "will not create hard link " " to directory " "" "" goal earlier)
                else giveName { s with following := .never, removesOnFailure := true } earlier goal
              | none =>
                if isDirectory then copyDirectory s copyInner origin source goal own isNew there
                else copyPlain s source goal own isNew
            if isOperand ∧ s.remembers then
              match ← lookUp goal false with
              | some t => modify fun m => { m with goals := (goal, t.identity) :: m.goals }
              | none => pure ()
            pure result

/-- More directories than can lie in each other. -/
def deepest : Nat := maxPath

/-- Copies an operand. -/
def copyOperand (s : Style) (source goal : Bytes) : Copier Bool := do
  modify fun m => { m with hasNewDirectory := false, goesIntoItself := false }
  copyEntry s deepest { source, goal } source goal true

end LineShell.Machine.Copying
