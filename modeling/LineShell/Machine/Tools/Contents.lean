import LineShell.Machine.Tools.ListingStyle

/-!
Listing entries and what directories hold. What is no directory comes first, then one directory after the other,
each with its name in front if there are several.
-/

namespace LineShell.Machine.Contents
open Listing

/-- The name is listed. A pattern stands for a dot in front only by a dot of its own. -/
def lists (s : Style) (name : Bytes) : Bool :=
  let isDotted := name.head? == some 0x2E
  let matched (patterns : List (List Script.Pattern.Item)) : Bool := patterns.any fun items =>
    Script.Pattern.accepts items name && (!isDotted || items.head? == some (.byte 0x2E))
  !((s.concealment == .dotted && (isDotted || matched s.hidden)) ||
    (s.concealment == .selfAndParent && (name == dot || name == dotDot)) || matched s.ignored)

/-- How much must be known of an entry: nothing, what can be known, or all. -/
inductive Need where
  | nothing
  | some
  | all
  deriving DecidableEq, Repr

/-- How much must be known of the entries of a directory. -/
def needOf (s : Style) : Need :=
  if s.format = .long ∨ s.showsBlocks ∨ s.arrangement = .time ∨ s.arrangement = .size then .all
  else if s.indication = .all ∨ s.showsNumbers then .all
  else if s.recursive ∨ s.indication ≠ .none ∨ s.directoriesFirst then .some
  else .nothing

/-- What an operand is, with its last link followed or not. -/
def examineOperand (s : Style) (path : Bytes) : Job (Except Errno EntryStatus) := do
  match s.following with
  | .never => Job.call (.examine ⟨path⟩ false)
  | .always | .operands => Job.call (.examine ⟨path⟩ true)
  | .operandsToDirectories =>
    let followed : Except Errno EntryStatus ← Job.call (.examine ⟨path⟩ true)
    match followed with
    | .ok status =>
      if status.kind = .directory then pure followed else Job.call (.examine ⟨path⟩ false)
    | .error e =>
      if e = .enoent ∨ e = .eloop then Job.call (.examine ⟨path⟩ false) else pure followed

/-- An entry with what its link leads to, if that is shown or counts. -/
def withTarget (s : Style) (path : Bytes) (e : Entry) : Job Entry := do
  if e.kind? = some .link ∧ (s.format = .long ∨ s.directoriesFirst) then
    let target := match ← Job.call (.readLink ⟨path⟩) with
      | .ok target => some target
      | .error _ => none
    let goal := match ← Job.call (.examine ⟨path⟩ true) with
      | .ok status => some status
      | .error _ => none
    pure { e with target, goal }
  else pure e

/-- Complains about a path that cannot be looked at. -/
def complain (what path : Bytes) (e : Errno) : Job Unit :=
  Job.complainOf (what ++ Utf8.encode " " ++ Quoting.always path) e

/-- Complains about an entry that nothing is known of. -/
def complainAccess (path : Bytes) (e : Errno) : Job Unit := complain (Utf8.encode "cannot access") path e

/-- The entry that an operand names, and the exit code. -/
def operandEntry (s : Style) (path : Bytes) : Job (Option Entry × Nat) := do
  match ← examineOperand s path with
  | .error e =>
    complainAccess path e
    pure (none, 2)
  | .ok status => do pure (some (← withTarget s path { name := path, status := some status }), 0)

/-- The path of an entry of a directory, as complaints show it. -/
def shownPath (directory name : Bytes) : Bytes :=
  if directory = dot then name
  else if directory.getLast? = some Path.slash then directory ++ name
  else directory ++ [Path.slash] ++ name

/-- An entry of a directory, and the exit code. -/
def directoryEntry (s : Style) (directory name : Bytes) : Job (Entry × Nat) := do
  let need := needOf s
  let path := shownPath directory name
  if need = .nothing then pure ({ name }, 0)
  else
    let own : Except Errno EntryStatus ← Job.call (.examine ⟨path⟩ false)
    let isFollowed : Bool := match own with
      | .ok status => s.following == .always && status.kind == .link
      | .error _ => false
    let status : Except Errno EntryStatus ← if isFollowed then Job.call (.examine ⟨path⟩ true) else pure own
    match status with
    | .ok status => do pure (← withTarget s path { name, status := some status }, 0)
    | .error e =>
      if need = .all ∨ isFollowed then
        complainAccess path e
        pure ({ name, status := if isFollowed ∧ s.format ≠ .long then own.toOption else none }, 1)
      else pure ({ name }, 0)

/-- Something that is still to be listed, or the end of a directory in which others are listed. -/
inductive Task where
  | directory (path : Bytes) (isOperand : Bool)
  | leave

/-- Where the listing stands: what is left, the directories that are being listed, whether something has been
listed, whether names of directories are shown, and the exit code. -/
structure Progress where
  tasks : List Task
  around : List Identity := []
  isFirst : Bool := true
  namesDirectories : Bool
  code : Nat := 0

/-- Prints a list of entries. -/
def printEntries (s : Style) (entries : List Entry) : Job Unit := do
  Job.print (s.render (← Job.call .clock) entries)

/-- The path of a directory in another one. -/
def pathIn (directory name : Bytes) : Bytes :=
  if directory.getLast? = some Path.slash then directory ++ name else directory ++ [Path.slash] ++ name

/-- The names in a directory that are listed. -/
def namesIn (s : Style) (path : Bytes) : Job (Except Errno (List Bytes)) := do
  match ← Job.call (.list ⟨path⟩) with
  | .ok names => pure (.ok ((dot :: dotDot :: names).filter (lists s)))
  | .error e => pure (.error e)

/-- The room that entries take together. -/
def totalLine (s : Style) (entries : List Entry) : Bytes :=
  if s.format = .long ∨ s.showsBlocks then
    Utf8.encode ("total " ++ s.blockScale.text ((entries.map Entry.room).foldl (· + ·) 0)) ++ [s.ending]
  else []

/-- Lists a directory. -/
def listDirectory (s : Style) (p : Progress) (path : Bytes) (isOperand : Bool) : Job Progress := do
  let failure := if isOperand then 2 else 1
  match ← namesIn s path with
  | .error e =>
    complain (Utf8.encode "cannot open directory") path e
    pure { p with code := max p.code failure, namesDirectories := true }
  | .ok names =>
    let identity := match ← Job.call (.examine ⟨path⟩ true) with
      | .ok status => some status.identity
      | .error _ => none
    if s.recursive ∧ identity.any p.around.contains then
      Job.complain (Quoting.ifNeeded path ++ Utf8.encode ": not listing already-listed directory")
      pure { p with code := 2, namesDirectories := true }
    else
      let named := s.recursive || p.namesDirectories
      if named then
        Job.print ((if p.isFirst then [] else [Lines.newline]) ++ s.quote path ++ Utf8.encode ":\n")
      let (found, code) ← names.foldlM (fun ((found, code) : List Entry × Nat) name => do
        let (e, c) ← directoryEntry s path name
        pure (e :: found, max code c)) ([], p.code)
      let entries := s.sort found.reverse
      Job.print (totalLine s entries)
      printEntries s entries
      let inner := if s.recursive then
          (entries.filter fun e => e.isDirectory && e.name != dot && e.name != dotDot).map fun e =>
            Task.directory (pathIn path e.name) false
        else []
      let around := if s.recursive then identity.toList ++ p.around else p.around
      let tasks := if s.recursive then inner ++ Task.leave :: p.tasks else p.tasks
      pure { tasks, around, code, isFirst := p.isFirst && !named, namesDirectories := true }

/-- Lists all directories that are left. -/
def listAll (s : Style) (p : Progress) : Job Nat :=
  Job.loop p fun p =>
    match p.tasks with
    | [] => pure (.inr p.code)
    | .leave :: tasks => pure (.inl { p with tasks, around := p.around.drop 1 })
    | .directory path isOperand :: tasks => do
      pure (.inl (← listDirectory s { p with tasks } path isOperand))

/-- Lists operands, or else the present directory. -/
def list (standard : Style) : Job Nat := do
  let o ← Job.options optionLine
  let s ← styleOf standard o
  let count := o.operands.length
  if o.operands = [] ∧ !s.directoriesAsEntries then
    listAll s { tasks := [.directory dot true], namesDirectories := false }
  else
    let operands := if o.operands = [] then [dot] else o.operands
    let (found, code) ← operands.foldlM (fun ((found, code) : List Entry × Nat) path => do
      let (e, c) ← operandEntry s path
      pure (e.toList ++ found, max code c)) ([], 0)
    let entries := s.sort found.reverse
    let (directories, others) :=
      if s.directoriesAsEntries then ([], entries) else entries.partition Entry.isDirectory
    printEntries s others
    if others ≠ [] ∧ directories ≠ [] then Job.print [Lines.newline]
    let isAlone := others.isEmpty && count ≤ 1 && directories.length == 1
    listAll s {
      tasks := directories.map fun e => .directory e.name true, namesDirectories := !isAlone, code }

/-- Lists one entry a line. -/
def onLines : Job Nat := Job.withFailureCode 2 (list {})

/-- Lists entries in columns. -/
def inColumns : Job Nat := Job.withFailureCode 2 (list { format := .columns, manner := .escapes })

end LineShell.Machine.Contents
