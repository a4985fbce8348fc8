import LineShell.Machine.Tools.Choice

/-!
Copying the input to the output and to files at once. A goal that cannot be written to is left out from then on.
-/

namespace LineShell.Machine.Spreading

/-- What is done about a goal that cannot be written to. -/
inductive Reaction where
  | warn
  | warnUnlessPipe
  | exit
  | exitUnlessPipe
  deriving DecidableEq, Repr

/-- The words for what may be done. -/
def reactions : List (String × Reaction) :=
  [("warn", .warn), ("warn-nopipe", .warnUnlessPipe), ("exit", .exit), ("exit-nopipe", .exitUnlessPipe)]

/-- The failure counts. -/
def Reaction.minds (r : Option Reaction) (e : Errno) : Bool :=
  e != .epipe || r == some .warn || r == some .exit

/-- The failure ends the program. -/
def Reaction.ends (r : Option Reaction) : Bool := r == some .exit || r == some .exitUnlessPipe

/-- Something that is written to. -/
structure Goal where
  name : Bytes
  stream : Nat

/-- Writes a piece to the goals; those that take it are given back, with the exit code. -/
def spread (reaction : Option Reaction) (bytes : Bytes) (goals : List Goal) (code : Nat) : Job (List Goal × Nat) := do
  let (kept, code) ← goals.foldlM (fun ((kept, code) : List Goal × Nat) goal => do
    match ← Job.writeTo goal.stream bytes with
    | .ok () => pure (goal :: kept, code)
    | .error e =>
      if Reaction.minds reaction e then
        Job.complainOf (Quoting.ifNeeded goal.name) e
        if Reaction.ends reaction then Job.exit 1
        pure (kept, 1)
      else pure (kept, code)) ([], code)
  pure (kept.reverse, code)

/-- How much is read at a time. -/
def chunkSize : Nat := 8192

/-- Copies the input to the output and to files. -/
def run : Job Nat := do
  let o ← Job.options "a|append i|ignore-interrupts p output-error=?"
  let reaction ← match o.last? ["p", "output-error"] with
    | none => pure none
    | some "p" => pure (some Reaction.warnUnlessPipe)
    | some _ => do pure (some (← Job.choiceOf o "output-error" reactions .warnUnlessPipe))
  if reaction.isSome then
    let _ ← Job.call (.dispose 13 .ignored)
  let appends := o.has "append"
  let mode : OpenMode := { writes := true, creates := true, truncates := !appends, appends }
  let (goals, code) ← o.operands.foldlM (fun ((goals, code) : List Goal × Nat) name => do
    match ← Job.call (.openFile ⟨name⟩ mode) with
    | .ok stream => pure (goals ++ [⟨name, stream⟩], code)
    | .error e =>
      Job.complainOf (Quoting.ifNeeded name) e
      pure (goals, 1)) ([⟨Utf8.encode "standard output", Job.output⟩], 0)
  let ((_, code), failure) ← Job.forChunks Job.input chunkSize (goals, code) fun (goals, code) chunk => do
    let (goals, code) ← spread reaction chunk goals code
    pure ((goals, code), goals ≠ [])
  let code ← match failure with
    | none => pure code
    | some e =>
      Job.complainOf (Utf8.encode "read error") e
      pure 1
  match ← Job.call (.close Job.input) with
  | .ok () => pure code
  | .error e => Job.failOf (Utf8.encode "standard input") e

end LineShell.Machine.Spreading
