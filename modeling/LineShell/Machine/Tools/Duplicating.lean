import LineShell.Machine.Tools.Copying

/-!
Copying operands to a goal or into a directory, and putting files with rights of their own where they are to be
used.
-/

namespace LineShell.Machine.Duplicating
open Copying

/-- What of an entry its copy may keep. -/
inductive Attribute where
  | mode
  | times
  | owner
  | names
  | context
  | extended
  | all
  deriving DecidableEq, Repr

/-- The words for what may be kept. -/
def attributes : List (String × Attribute) :=
  [("mode", .mode), ("timestamps", .times), ("ownership", .owner), ("links", .names), ("context", .context),
    ("xattr", .extended), ("all", .all)]

/-- Keeps an attribute, or drops it. -/
def withAttribute (keeps : Bool) (s : Style) (a : Attribute) : Style :=
  let s := if a = .mode ∨ a = .all then { s with keepsMode := keeps, dropsMode := !keeps } else s
  let s := if a = .times ∨ a = .all then { s with keepsTime := keeps } else s
  if a = .names ∨ a = .all then { s with keepsNames := keeps } else s

/-- Reads a list of attributes. -/
def attributesOf (option : String) (text : Bytes) : Job (List Attribute) :=
  (text.splitOn 0x2C).mapM fun word => Job.choice option attributes word

/-- The style after one more option; it is also told which links are followed if that has been said. -/
def step (state : Style × Option Following) (option : String × Option Bytes) : Job (Style × Option Following) := do
  let (s, following) := state
  match option with
  | ("archive", _) =>
    pure ({ s with recursive := true, keepsMode := true, dropsMode := false, keepsTime := true, keepsNames := true },
      some .never)
  | ("attributes-only", _) => pure ({ s with copiesData := false }, following)
  | ("d", _) => pure ({ s with keepsNames := true }, some .never)
  | ("force", _) => pure ({ s with removesOnFailure := true }, following)
  | ("H", _) => pure (s, some .operands)
  | ("interactive", _) => pure ({ s with overwriting := .asking }, following)
  | ("link", _) => pure ({ s with making := .names }, following)
  | ("dereference", _) => pure (s, some .always)
  | ("no-clobber", _) => pure ({ s with overwriting := .never }, following)
  | ("no-dereference", _) => pure (s, some .never)
  | ("p", _) => pure ({ s with keepsMode := true, dropsMode := false, keepsTime := true }, following)
  | ("preserve", none) => pure ({ s with keepsMode := true, dropsMode := false, keepsTime := true }, following)
  | ("preserve", some text) => do
    pure ((← attributesOf "--preserve" text).foldl (withAttribute true) s, following)
  | ("no-preserve", text) => do
    pure ((← attributesOf "--no-preserve" (text.getD [])).foldl (withAttribute false) s, following)
  | ("recursive", _) | ("r", _) => pure ({ s with recursive := true }, following)
  | ("remove-destination", _) => pure ({ s with removesFirst := true }, following)
  | ("symbolic-link", _) => pure ({ s with making := .links }, following)
  | ("update", _) => pure ({ s with onlyNewer := true }, following)
  | ("verbose", _) => pure ({ s with isVerbose := true }, following)
  | _ => pure state

/-- The words for holes in copies. -/
def sparseWords : List (String × Nat) := [("always", 0), ("auto", 1), ("never", 2)]

/-- The style that options ask for. -/
def styleOf (o : Options) : Job Style := do
  (o.values "sparse").forM fun word => do
    let _ ← Job.choice "--sparse" sparseWords word
  (o.values "reflink").forM fun word => do
    let _ ← Job.choice "--reflink" sparseWords word
  let (s, following) ← o.given.foldlM step (({} : Style), (none : Option Following))
  if o.has "link" ∧ o.has "symbolic-link" then Job.refuseText "cannot make both hard and symbolic links"
  else
    let backup ← Placing.backupOf o
    if s.overwriting = .never ∧ backup.kind ≠ .none then
      Job.refuseText "options --backup and --no-clobber are mutually exclusive"
    else
      let standard := if s.recursive ∧ s.making ≠ .names then Following.never else .always
      pure { s with
        backup, following := following.getD standard
        onlyNewer := s.onlyNewer && s.overwriting != .never
        removesFirst := s.removesFirst || (s.removesOnFailure && s.making != .copies) }

/-- Makes the directories that lead to an operand once more inside another one. -/
def makeParents (s : Style) (directory : Bytes) : List Bytes → Job Bool
  | [] => pure true
  | path :: more => do
    let goal := Placing.join directory path
    match ← Job.call (.examine ⟨path⟩ true), ← Job.call (.examine ⟨goal⟩ true) with
    | .error e, _ =>
      Job.complainOf (Utf8.encode "failed to get attributes of " ++ Quoting.always path) e
      pure false
    | .ok _, .ok there =>
      if there.kind = .directory then makeParents s directory more
      else
        Job.complain (Quoting.always goal ++ Utf8.encode " exists but is not a directory")
        pure false
    | .ok own, .error _ =>
      match ← Job.call (.makeDirectory ⟨goal⟩ (own.mode &&& 0o1777)) with
      | .ok () =>
        if s.isVerbose then Job.printLine (path ++ Utf8.encode " -> " ++ goal)
        makeParents s directory more
      | .error e =>
        Job.complainOf (Utf8.encode "cannot make directory " ++ Quoting.always goal) e
        pure false

/-- The place of an operand in a directory. -/
def placeIn (directory source : Bytes) : Bytes :=
  let name := Naming.withoutSlashes (Placing.lastComponent source)
  Placing.join directory (if name = dotDot then [] else name)

/-- Copies operands into a directory. -/
def copyInto (s : Style) (o : Options) (directory : Bytes) (sources : List Bytes) : Copier Bool :=
  sources.foldlM (fun (isFine : Bool) source => do
    let source := if o.has "strip-trailing-slashes" then Naming.withoutSlashes source else source
    let done ←
      if o.has "parents" || o.has "path" then
        let path := Naming.withoutSlashes source
        if ← makeParents s directory (Directories.parents path) then
          copyOperand s source (Placing.join directory path)
        else pure false
      else copyOperand s source (placeIn directory source)
    pure (done && isFine)) true

/-- The exit code of copying. -/
def finish (copying : Copier Bool) : Job Nat := do
  let (isFine, _) ← copying.run {}
  pure (if isFine then 0 else 1)

/-- Copies operands. -/
def run : Job Nat := do
  let o ← Job.options
    "a|archive attributes-only b backup=? copy-contents L|dereference d f|force H i|interactive l|link n|no-clobber P|no-dereference no-preserve= T|no-target-directory x|one-file-system parents path p preserve=? R|recursive r remove-destination sparse= reflink=? strip-trailing-slashes S|suffix= s|symbolic-link t|target-directory= u|update v|verbose Z context=?"
  let s ← styleOf o
  match ← Placing.goalOf o false with
  | .into directory sources =>
    finish (copyInto { s with remembers := 1 < sources.length } o directory sources)
  | .onto source goal =>
    let source := if o.has "strip-trailing-slashes" then Naming.withoutSlashes source else source
    if o.has "parents" || o.has "path" then
      Job.refuseText "with --parents, the destination must be a directory"
    else
      let isFile := ((← lookUp goal true).map EntryStatus.kind) == some .file
      if s.removesOnFailure ∧ s.backup.kind ≠ .none ∧ source = goal ∧ isFile then
        finish (copyOperand { s with backup := {} } source (← s.backup.pathOf goal))
      else finish (copyOperand s source goal)

/-! ### Installing -/

/-- How files are installed. -/
structure Installation where
  style : Style
  mode : Nat
  makesParents : Bool
  keepsTime : Bool
  strips : Bool
  owner : Option Bytes
  comparesFirst : Bool

/-- Says that a directory has been made. -/
def announce (s : Style) (path : Bytes) : Job Unit := do
  if s.isVerbose then
    Job.printLine ((← Job.name) ++ Utf8.encode ": creating directory " ++ Quoting.always path)

/-- Makes directories with rights of their own. -/
def installDirectory (i : Installation) (path : Bytes) : Job Nat := do
  match ← Directories.makeParents (announce i.style) (Directories.parents path) with
  | .error (path, e) => Directories.complainMaking path e
  | .ok () =>
    match ← Directories.makeOne path (some i.mode) with
    | .error e => Directories.complainMaking path e
    | .ok isNew =>
      if isNew then announce i.style path
      else
        let _ : Except Errno Unit ← Job.call (.changeMode ⟨path⟩ i.mode)
      pure 0

/-- The names of users that there are. -/
def userNames : List String := ["root", "0"]

/-- Gives an installed file its rights, and what else it is to have. -/
def adorn (i : Installation) (goal : Bytes) : Job Bool := do
  if i.strips then
    Job.complainText "cannot run 'strip': No such file or directory"
    Job.complainText "strip process terminated abnormally"
    let _ : Except Errno Unit ← Job.call (.unlink ⟨goal⟩)
    pure false
  else if i.owner.isSome then
    Job.complainOf (Utf8.encode "cannot change ownership of " ++ Quoting.always goal) .eperm
    pure false
  else
    match ← Job.call (.changeMode ⟨goal⟩ i.mode) with
    | .ok () => pure true
    | .error e =>
      Job.complainOf (Utf8.encode "cannot change permissions of " ++ Quoting.always goal) e
      pure false

/-- The bytes of a file. -/
def bytesOf (path : Bytes) : Job (Option Bytes) := do
  match ← Job.openToRead path with
  | .error _ => pure none
  | .ok stream =>
    let result ← Job.readAll stream
    Job.close stream
    pure result.toOption

/-- The goal holds what the source does, and has the rights that it is to have. -/
def isUpToDate (i : Installation) (source goal : Bytes) : Job Bool := do
  match ← lookUp source false, ← lookUp goal false with
  | some own, some there =>
    if own.kind = .file ∧ there.kind = .file ∧ there.mode = i.mode ∧ own.identity ≠ there.identity then
      pure ((← bytesOf source) == (← bytesOf goal))
    else pure false
  | _, _ => pure false

/-- Installs a file. -/
def installFile (i : Installation) (source goal : Bytes) : Copier Bool := do
  if ← (if i.comparesFirst then isUpToDate i source goal else pure false) then pure true
  else if ← copyOperand i.style source goal then adorn i goal
  else pure false

/-- Makes the directories that lead to a goal. -/
def makeWay (i : Installation) (goal : Bytes) : Job Bool := do
  if !i.makesParents then pure true
  else
    match ← Directories.makeParents (announce i.style) (Directories.parents goal) with
    | .ok () => pure true
    | .error (path, e) => do
      let _ ← Directories.complainMaking path e
      pure false

/-- Installs operands into a directory. -/
def installInto (i : Installation) (directory : Bytes) (sources : List Bytes) : Job Nat :=
  let i := { i with style := { i.style with remembers := 1 < sources.length } }
  finish (sources.foldlM (fun (isFine : Bool) source => do
    let done ← installFile i source (placeIn directory source)
    pure (done && isFine)) true)

/-- The way to install that options ask for. -/
def installationOf (o : Options) : Job Installation := do
  let mode ← Directories.modeOf o 0 (o.has "directory")
  let backup ← Placing.backupOf o
  let owner := (o.value? "owner").or (o.value? "group")
  match o.value? "owner" with
  | some user =>
    if !(userNames.map Utf8.encode).contains user ∧ !user.all Numeral.isDigit then
      Job.fail (Utf8.encode "invalid user " ++ Quoting.always user)
  | none => pure ()
  pure {
    style := {
      installs := true, removesFirst := true, backup, isVerbose := o.has "verbose"
      keepsTime := o.has "preserve-timestamps" }
    mode := mode.getD 0o755, makesParents := o.has "D", keepsTime := o.has "preserve-timestamps"
    strips := o.has "strip", owner, comparesFirst := o.has "compare" }

/-- Installs operands. -/
def install : Job Nat := do
  let o ← Job.options
    "backup=? b c C|compare D d|directory g|group= m|mode= o|owner= p|preserve-timestamps s|strip strip-program= S|suffix= t|target-directory= T|no-target-directory v|verbose preserve-context Z context=?"
  let i ← installationOf o
  if o.has "directory" then
    if o.operands = [] then Placing.refuseFew []
    else if o.has "target-directory" then
      Job.failText "target directory not allowed when installing a directory"
    else Job.forEach o.operands (installDirectory i)
  else
    let makesGoal := i.makesParents && o.has "target-directory" && o.operands != []
    match o.value? "target-directory" with
    | some directory =>
      if makesGoal then
        let _ ← makeWay i (Placing.join directory [0x78])
    | none => pure ()
    let last := o.operands.getLast?.getD []
    let single := i.makesParents && !o.has "target-directory" && o.operands.length == 2
    let isDirectory ← match ← Placing.asDirectory last with
      | .ok () => pure (!o.has "no-target-directory")
      | .error _ => pure false
    if single ∧ !isDirectory then
      if ← makeWay i last then finish (installFile i (o.operands.headD []) last) else pure 1
    else
      match ← Placing.goalOf o false with
      | .into directory sources => installInto i directory sources
      | .onto source goal => finish (installFile i source goal)

end LineShell.Machine.Duplicating
