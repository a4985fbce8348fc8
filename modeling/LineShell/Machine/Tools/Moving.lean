import LineShell.Machine.Tools.Copying

/-!
Moving entries: they are given another name, and what stands there is replaced. Entries that cannot be renamed
stay where they are.
-/

namespace LineShell.Machine.Moving
open Copying

/-- Gives an entry another name, unless something has that already. -/
def renameFree (source goal : Bytes) : Job (Except Errno Unit) := do
  let there ← Job.call (.examine ⟨goal⟩ false)
  match there with
  | .ok _ =>
    let own : Except Errno EntryStatus ← Job.call (.examine ⟨source⟩ false)
    match own with
    | .ok _ => pure (.error .eexist)
    | .error e => pure (.error e)
  | .error _ => Job.call (.rename ⟨source⟩ ⟨goal⟩)

/-- The error numbers that have to do with the goal alone. -/
def goalErrors : List Errno := [.eexist, .eisdir, ⟨31⟩, ⟨28⟩, ⟨26⟩]

/-- Complains that an entry cannot be renamed. -/
def failsToRename (source goal : Bytes) (e : Errno) : Copier Bool := do
  if e = .einval then
    fails (two "" "cannot move " " to a subdirectory of itself, " "" "" source goal)
  else if goalErrors.contains e then failsOf "cannot overwrite " goal e
  else
    Job.complainOf (two "" "cannot move " " to " "" "" source goal) e
    pure false

/-- Says that an entry has been renamed, and keeps in mind where it is. -/
def renamed (s : Style) (source goal : Bytes) (copy : Option Bytes) : Copier Bool := do
  if s.isVerbose then Job.printLine (Utf8.encode "renamed " ++ pairLine source goal copy)
  match ← lookUp goal false with
  | some status => modify fun m => { m with goals := (goal, status.identity) :: m.goals }
  | none => pure ()
  pure true

/-- Moves an entry to a goal; the first attempt may have been made already. -/
def moveOperand (s : Style) (tried : Option Errno) (source goal : Bytes) : Copier Bool := do
  let first : Except Errno Unit ← match tried with
    | some e => pure (.error e)
    | none => renameFree source goal
  match first with
  | .ok () => renamed s source goal none
  | .error why =>
    if why = .eexist ∧ s.overwriting = .never then pure true
    else
      match ← Job.call (.examine ⟨source⟩ false) with
      | .error e => failsOf "cannot stat " source e
      | .ok own =>
        match ← Job.call (.examine ⟨goal⟩ false) with
        | .error e => if e = .enoent then failsToRename source goal why else failsOf "cannot stat " goal e
        | .ok there =>
          match ← meet s source goal own there true with
          | .failed => pure false
          | .left => pure true
          | .goesOn _ copy =>
            let result : Except Errno Unit ← Job.call (.rename ⟨source⟩ ⟨goal⟩)
            match result with
            | .ok () => renamed s source goal copy
            | .error e =>
              match copy with
              | some copy =>
                let _ : Except Errno Unit ← Job.call (.rename ⟨copy⟩ ⟨goal⟩)
              | none => pure ()
              failsToRename source goal e

/-- Moves operands into a directory. -/
def moveInto (s : Style) (directory : Bytes) (sources : List Bytes) : Copier Bool :=
  sources.foldlM (fun (isFine : Bool) source => do
    let goal := Placing.join directory (Naming.withoutSlashes (Placing.lastComponent source))
    let done ← moveOperand s none source goal
    pure (done && isFine)) true

/-- Moves a source to a goal, or into it if that is a directory. -/
def movePair (s : Style) (source goal : Bytes) : Copier Bool := do
  match ← renameFree source goal with
  | .ok () => renamed s source goal none
  | .error e =>
    match ← Placing.asDirectory goal with
    | .ok () => moveInto s goal [source]
    | .error _ => moveOperand s (some e) source goal

/-- The style after one more option. -/
def step (s : Style) (option : String × Option Bytes) : Style :=
  match option.1 with
  | "force" => { s with overwriting := .freely }
  | "interactive" => { s with overwriting := .asking }
  | "no-clobber" => { s with overwriting := .never }
  | "update" => { s with onlyNewer := true }
  | "verbose" => { s with isVerbose := true }
  | _ => s

/-- Moves operands. -/
def run : Job Nat := do
  let o ← Job.options
    "b backup=? f|force i|interactive n|no-clobber strip-trailing-slashes S|suffix= t|target-directory= T|no-target-directory u|update v|verbose Z|context"
  let base : Style := { moves := true, following := .never }
  let s := o.given.foldl step base
  let backup ← Placing.backupOf o
  let s := { s with backup, onlyNewer := s.onlyNewer && s.overwriting != .never }
  let bare (path : Bytes) : Bytes := if o.has "strip-trailing-slashes" then Naming.withoutSlashes path else path
  let goal ← Placing.goalOf o true
  if s.overwriting = .never ∧ backup.kind ≠ .none then
    Job.refuseText "options --backup and --no-clobber are mutually exclusive"
  else
    let moving : Copier Bool := match goal with
      | .into directory sources => moveInto s directory (sources.map bare)
      | .onto source goal =>
        if o.has "no-target-directory" then moveOperand s none (bare source) goal
        else movePair s (bare source) goal
    let (isFine, _) ← moving.run {}
    pure (if isFine then 0 else 1)

end LineShell.Machine.Moving
