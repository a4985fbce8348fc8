import LineShell.Machine.Tools.Placing

/-!
Giving entries further names, and making links that hold a path.
-/

namespace LineShell.Machine.Linking

/-- How names are given. -/
structure Style where
  isSymbolic : Bool := false
  isRelative : Bool := false
  followsSource : Bool := false
  followsGoal : Bool := true
  allowsDirectories : Bool := false
  removes : Bool := false
  asks : Bool := false
  backup : Placing.Backup := {}
  isVerbose : Bool := false

/-- Tries to give a name, or to make a link. -/
def attempt (s : Style) (source goal : Bytes) : Job (Except Errno Unit) := do
  if s.isSymbolic then Job.call (.makeLink source ⟨goal⟩)
  else if s.followsSource then
    match ← Job.call (.resolve ⟨source⟩) with
    | .ok path => Job.call (.link ⟨path⟩ ⟨goal⟩)
    | .error e => pure (.error e)
  else Job.call (.link ⟨source⟩ ⟨goal⟩)

/-- A path as it is seen from the directory of another one. -/
def seenFrom (goal source : Bytes) : Job Bytes := do
  let target ← Naming.resolve .nothing true source
  let directory ← Naming.resolve .nothing true (Naming.directoryName goal)
  match target, directory with
  | .ok target, .ok directory => pure (Naming.between directory target)
  | _, _ => pure source

/-- What has been linked so far: where, and what. -/
abbrev Made := List (Bytes × Identity)

/-- Complains about a link that cannot be made. -/
def complainMaking (s : Style) (source goal : Bytes) (e : Errno) : Job Unit := do
  let shownGoal := Quoting.always goal
  let message :=
    if s.isSymbolic then
      Utf8.encode "failed to create symbolic link " ++ shownGoal ++
        if e = .enametoolong ∨ source = [] then Utf8.encode " -> " ++ Quoting.always source else []
    else
      Utf8.encode "failed to create hard link " ++ shownGoal ++
        if e = .eexist ∨ e = ⟨28⟩ ∨ e = ⟨30⟩ then [] else Utf8.encode " => " ++ Quoting.always source
  Job.complainOf message e

/-- Complains with a path in front. -/
def complainOfPath (path : Bytes) (message : String) : Job Unit :=
  Job.complain (Quoting.ifNeeded path ++ Utf8.encode message)

/-- What is done with an entry that stands at the goal. -/
inductive Clearing where
  | failed
  | left
  | absent
  | cleared (copy : Option Bytes)

/-- Makes room at the goal. -/
def clear (s : Style) (made : Made) (source goal : Bytes) (own : Option EntryStatus) : Job Clearing := do
  match ← Job.call (.examine ⟨goal⟩ false) with
  | .error e =>
    if e = .enoent then pure .absent
    else
      Job.complainOf (Utf8.encode "failed to access " ++ Quoting.always goal) e
      pure .failed
  | .ok there =>
    if there.kind = .directory then
      complainOfPath goal ": cannot overwrite directory"
      pure .failed
    else if made.contains (goal, there.identity) then
      Job.complain (Utf8.encode "will not overwrite just-created " ++ Quoting.always goal ++ Utf8.encode " with " ++
        Quoting.always source)
      pure .failed
    else
      let own ← if s.isSymbolic then do
          match ← Job.call (.examine ⟨source⟩ true) with
          | .ok status => pure (some status)
          | .error _ => pure none
        else pure own
      let isSame ← match own with
        | none => pure false
        | some status =>
          if status.identity ≠ there.identity ∨ (s.isSymbolic ∧ s.backup.kind ≠ .none) then pure false
          else if status.links = 1 then pure true
          else Placing.isSameName source goal
      if isSame then
        Job.complain (Quoting.always source ++ Utf8.encode " and " ++ Quoting.always goal ++
          Utf8.encode " are the same file")
        pure .failed
      else if ← (if s.asks then do
          pure !(← Job.isConfirmed (Utf8.encode "replace " ++ Quoting.always goal ++ Utf8.encode "? "))
        else pure false) then pure .left
      else if s.backup.kind ≠ .none then
        match ← s.backup.make goal with
        | .ok copy => pure (.cleared (some copy))
        | .error e =>
          Job.complainOf (Utf8.encode "cannot backup " ++ Quoting.always goal) e
          pure .failed
      else pure (.cleared none)

/-- Links a source to a goal, behind a first attempt if there was one. -/
def linkOne (s : Style) (tried : Option Errno) (made : Made) (source goal : Bytes) : Job (Nat × Made) := do
  let own ← if s.isSymbolic then pure (Except.ok none) else do
    match ← Job.call (.examine ⟨source⟩ s.followsSource) with
    | .ok status => pure (.ok (some status))
    | .error e => pure (.error e)
  match own with
  | .error e =>
    Job.complainOf (Utf8.encode "failed to access " ++ Quoting.always source) e
    pure (1, made)
  | .ok own =>
    if !s.isSymbolic ∧ !s.allowsDirectories ∧ own.any (·.kind == .directory) then
      complainOfPath source ": hard link not allowed for directory"
      pure (1, made)
    else
      let source ← if s.isRelative then seenFrom goal source else pure source
      let clearing ← if s.removes ∨ s.asks ∨ s.backup.kind ≠ .none then clear s made source goal own
        else pure .absent
      match clearing with
      | .failed => pure (1, made)
      | .left => pure (0, made)
      | .absent | .cleared _ =>
        let copy := match clearing with
          | .cleared copy => copy
          | _ => none
        let isCleared := match clearing with
          | .cleared none => true
          | _ => false
        if isCleared then
          let _ : Except Errno Unit ← Job.call (.unlink ⟨goal⟩)
        let result : Except Errno Unit ← match tried, clearing with
          | some e, .absent => pure (.error e)
          | _, _ => attempt s source goal
        match result with
        | .error e =>
          complainMaking s source goal e
          pure (1, made)
        | .ok () =>
          if s.isVerbose then
            let front := match copy with
              | some copy => Quoting.always copy ++ Utf8.encode " ~ "
              | none => []
            Job.printLine (front ++ Quoting.always goal ++ Utf8.encode (if s.isSymbolic then " -> " else " => ") ++
              Quoting.always source)
          pure (0, match own with
            | some status => (goal, status.identity) :: made
            | none => made)

/-- A directory that links are made in, or why it is none. -/
def asDirectory (s : Style) (path : Bytes) : Job (Except Errno Unit) := do
  if s.followsGoal then Placing.asDirectory path
  else
    match ← Job.call (.examine ⟨path⟩ false) with
    | .ok status => if status.kind = .link then pure (.error .enotdir) else Placing.asDirectory path
    | .error e => pure (.error e)

/-- Links all sources into a directory. -/
def linkInto (s : Style) (directory : Bytes) (sources : List Bytes) : Job Nat := do
  let (code, _) ← sources.foldlM (fun ((code, made) : Nat × Made) source => do
    let goal := Placing.join directory (Naming.withoutSlashes (Placing.lastComponent source))
    let (c, made) ← linkOne s none made source goal
    pure (max code c, made)) (0, ([] : Made))
  pure code

/-- Links a source to a goal, or into it if that is a directory. -/
def linkPair (s : Style) (source goal : Bytes) : Job Nat := do
  let first : Except Errno Unit ← if s.isRelative then pure (.error .eexist) else attempt s source goal
  match first with
  | .ok () =>
    if s.isVerbose then
      Job.printLine (Quoting.always goal ++ Utf8.encode (if s.isSymbolic then " -> " else " => ") ++
        Quoting.always source)
    pure 0
  | .error e =>
    let mayBeDirectory := e = .eexist ∨ e = .enotdir ∨ e = .einval
    let directory ← if mayBeDirectory then asDirectory s goal else pure (.error e)
    match directory with
    | .ok () => linkInto s goal [source]
    | .error _ =>
      let tried := if s.isRelative then none else some e
      pure (← linkOne s tried [] source goal).1

/-- Links entries. -/
def run : Job Nat := do
  let o ← Job.options
    "b backup=? d F|directory f|force i|interactive L|logical n|no-dereference P|physical r|relative S|suffix= s|symbolic t|target-directory= T|no-target-directory v|verbose"
  if o.operands = [] then Job.refuseText "missing file operand"
  else
    let s : Style := {
      isSymbolic := o.has "symbolic", isRelative := o.has "relative"
      followsSource := o.last? ["logical", "physical"] == some "logical"
      followsGoal := !o.has "no-dereference", allowsDirectories := o.has "d" || o.has "directory"
      removes := o.last? ["force", "interactive"] == some "force"
      asks := o.last? ["force", "interactive"] == some "interactive"
      backup := ← Placing.backupOf o, isVerbose := o.has "verbose" }
    if s.isRelative ∧ !s.isSymbolic then Job.failText "cannot do --relative without --symbolic"
    else
      match o.value? "target-directory", o.has "no-target-directory", o.operands with
      | some _, true, _ => Job.failText "cannot combine --target-directory and --no-target-directory"
      | some directory, false, sources =>
        match ← asDirectory s directory with
        | .ok () => linkInto s directory sources
        | .error e => Job.failOf (Utf8.encode "target " ++ Quoting.always directory) e
      | none, true, [source, goal] => do pure (← linkOne s none [] source goal).1
      | none, true, [source] => Job.refuse (Utf8.encode "missing destination file operand after " ++ Quoting.always source)
      | none, true, _ :: _ :: extra :: _ => Job.refuse (Utf8.encode "extra operand " ++ Quoting.always extra)
      | none, _, [source] => linkInto s dot [source]
      | none, _, [source, goal] => linkPair s source goal
      | none, _, operands =>
        let goal := operands.getLast?.getD []
        match ← asDirectory s goal with
        | .ok () => linkInto s goal operands.dropLast
        | .error e => Job.failOf (Utf8.encode "target " ++ Quoting.always goal) e

/-- Gives one entry a further name. -/
def link : Job Nat := do
  let o ← Job.options ""
  match o.operands with
  | [] => Job.refuseText "missing operand"
  | [source] => Job.refuse (Utf8.encode "missing operand after " ++ Quoting.plain source)
  | [source, goal] =>
    match ← Job.call (.link ⟨source⟩ ⟨goal⟩) with
    | .ok () => pure 0
    | .error e =>
      Job.failOf (Utf8.encode "cannot create link " ++ Quoting.always goal ++ Utf8.encode " to " ++
        Quoting.always source) e
  | _ :: _ :: extra :: _ => Job.refuse (Utf8.encode "extra operand " ++ Quoting.plain extra)

end LineShell.Machine.Linking
