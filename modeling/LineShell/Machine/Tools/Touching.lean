import LineShell.Machine.Tools.Amount
import LineShell.Machine.Tools.Choice
import LineShell.Machine.Tools.DateText

/-!
Making files that are not there, and saying when entries were last changed.
-/

namespace LineShell.Machine.Touching

/-- The words for times of entries. -/
def times : List (String × Bool) :=
  [("atime", false), ("access", false), ("use", false), ("mtime", true), ("modify", true)]

/-- How entries are touched: the time they are given, which may be the present one. -/
structure Style where
  creates : Bool := true
  follows : Bool := true
  changesTime : Bool := true
  time : Option Nat := none

/-- Complains about a date. -/
def refuseDate {α : Type} (text : Bytes) : Job α :=
  Job.fail (Utf8.encode "invalid date format " ++ Quoting.plain text)

/-- The time of an entry. -/
def timeOf (path : Bytes) (follows : Bool) : Job Nat := do
  match ← Job.call (.examine ⟨path⟩ follows) with
  | .ok status => pure status.time
  | .error e => Job.failOf (Utf8.encode "failed to get attributes of " ++ Quoting.always path) e

/-- A second, in nanoseconds. -/
def second : Nat := Nat.pow 10 9

/-- The time that options ask for. -/
def timeBy (o : Options) : Job (Option Nat) := do
  let clock ← Job.call .clock
  let dateAt (t : Nat) : Date := .ofSeconds (t / second : Nat)
  let stamp ← match o.value? "t" with
    | none => pure none
    | some text =>
      match DateText.stamp? (dateAt clock) text with
      | some s => pure (some (s.toNat * second))
      | none => refuseDate text
  match stamp, o.value? "reference", o.value? "date" with
  | some time, none, none => pure (some time)
  | some _, _, _ => Job.refuseText "cannot specify times from more than one source"
  | none, none, none => pure none
  | none, some path, none => do pure (some (← timeOf path (!o.has "no-dereference")))
  | none, reference, some text =>
    let base ← match reference with
      | some path => timeOf path (!o.has "no-dereference")
      | none => pure clock
    match DateText.seconds? (dateAt base) text with
    | some s => pure (some (s.toNat * second))
    | none => refuseDate text

/-- Complains about an entry that cannot be touched. -/
def complain (what path : Bytes) (e : Errno) : Job Nat := do
  Job.complainOf (what ++ Quoting.always path) e
  pure 1

/-- Changes the time of an entry. -/
def change (s : Style) (path : Bytes) : Job (Except Errno Unit) := do
  if s.follows ∧ s.changesTime then Job.call (.changeTime ⟨path⟩ s.time)
  else do
    let status : Except Errno EntryStatus ← Job.call (.examine ⟨path⟩ s.follows)
    pure (status.map fun _ => ())

/-- Touches the output. -/
def touchOutput (s : Style) : Job Nat := do
  match ← Job.call (.examineStream Job.output) with
  | .ok status =>
    if status.kind = .device ∧ s.time.isSome then complain (Utf8.encode "setting times of ") Job.dash .eperm else pure 0
  | .error e => if s.creates then complain (Utf8.encode "setting times of ") Job.dash e else pure 0

/-- Touches an entry. -/
def touch (s : Style) (path : Bytes) : Job Nat := do
  if path = Job.dash then touchOutput s
  else
    let opened : Except Errno Nat ←
      if s.creates && s.follows then Job.call (.openFile ⟨path⟩ { writes := true, creates := true }) else pure (.ok 0)
    let result ← change s path
    match opened with
    | .ok stream => if stream ≠ 0 then Job.close stream
    | .error _ => pure ()
    match result, opened with
    | .ok (), _ => pure 0
    | .error e, .error why =>
      if why = .eisdir then complain (Utf8.encode "setting times of ") path e
      else complain (Utf8.encode "cannot touch ") path why
    | .error e, .ok _ =>
      if !s.creates ∧ e = .enoent then pure 0 else complain (Utf8.encode "setting times of ") path e

/-- Touches entries. -/
def run : Job Nat := do
  let o ← Job.options "a c|no-create d|date= f h|no-dereference m r|reference= t= time="
  let selected ← (o.values "time").mapM fun word => Job.choice "--time" times word
  let onlyAccess := (o.has "a" || selected.contains false) && !(o.has "m" || selected.contains true)
  let time ← timeBy o
  if o.operands = [] then Job.refuseText "missing file operand"
  else
    let style : Style := {
      creates := !o.has "no-create", follows := !o.has "no-dereference", changesTime := !onlyAccess, time }
    Job.forEach o.operands (touch style)

/-! ### Sizes -/

/-- How a size is changed. -/
inductive Resizing where
  | exact
  | more
  | less
  | atMost
  | atLeast
  | downTo
  | upTo
  deriving DecidableEq, Repr

/-- The signs in front of sizes. -/
def Resizing.ofSign? (b : UInt8) : Option Resizing :=
  [(0x2B, .more), (0x2D, .less), (0x3C, .atMost), (0x3E, .atLeast), (0x2F, .downTo), (0x25, .upTo)].lookup b

/-- The size after a change. -/
def Resizing.apply (r : Resizing) (size n : Nat) : Nat :=
  match r with
  | .exact => n
  | .more => size + n
  | .less => size - n
  | .atMost => min size n
  | .atLeast => max size n
  | .downTo => size / n * n
  | .upTo => (size + n - 1) / n * n

/-- Reads a size with a sign in front. -/
def resizing (text : Bytes) : Job (Resizing × Nat) := do
  let text := text.dropWhile Numeral.isSpace
  let (sign, rest) := match text with
    | b :: rest =>
      match Resizing.ofSign? b with
      | some r => (r, rest.dropWhile Numeral.isSpace)
      | none => (.exact, text)
    | [] => (Resizing.exact, text)
  let isDouble := sign ≠ .exact && rest.head?.any fun b => b = 0x2B ∨ b = 0x2D
  if isDouble ∧ (sign = .more ∨ sign = .less) then
    Job.fail (Utf8.encode "Invalid number: " ++ Quoting.plain text)
  else if isDouble then Job.refuseText "multiple relative modifiers specified"
  else
    match Amount.read "EgGkKmMPtTYZ" rest with
    | .ok n =>
      if n = 0 ∧ (sign = .downTo ∨ sign = .upTo) then Job.failText "division by zero" else pure (sign, n)
    | .error e =>
      let shown := if sign = .more ∨ sign = .less then text else rest
      Job.fail (Utf8.encode "Invalid number: " ++ Quoting.plain shown ++ Amount.reason e)

/-- The block that sizes may be counted in. -/
def blockSize : Nat := 4096

/-- Gives files another size. -/
def resize : Job Nat := do
  let o ← Job.options "c|no-create o|io-blocks r|reference= s|size="
  let change ← match o.value? "size" with
    | none => pure none
    | some text => do pure (some (← resizing text))
  let sign := (change.map Prod.fst).getD .exact
  if o.operands = [] ∧ (o.has "reference" ∨ change.isSome) then Job.refuseText "missing file operand"
  else if !o.has "reference" ∧ change.isNone then
    Job.refuseText "you must specify either '--size' or '--reference'"
  else if o.has "reference" ∧ change.isSome ∧ sign = .exact then
    Job.refuseText "you must specify a relative '--size' with '--reference'"
  else if o.has "io-blocks" ∧ change.isNone then Job.refuseText "'--io-blocks' specified but '--size' was not"
  else
    let reference ← match o.value? "reference" with
      | none => pure none
      | some path =>
        match ← Job.call (.examine ⟨path⟩ true) with
        | .ok status => pure (some status.size)
        | .error e => Job.failOf (Utf8.encode "cannot stat " ++ Quoting.always path) e
    Job.forEach o.operands fun path => do
      match ← Job.call (.openFile ⟨path⟩ { writes := true, creates := !o.has "no-create" }) with
      | .error e =>
        if e = .enoent ∧ o.has "no-create" then pure 0
        else
          Job.complainOf (Utf8.encode "cannot open " ++ Quoting.always path ++ Utf8.encode " for writing") e
          pure 1
      | .ok stream =>
        let present := match ← Job.call (.examineStream stream) with
          | .ok status => status.size
          | .error _ => 0
        let unit := if o.has "io-blocks" then blockSize else 1
        let base := reference.getD present
        let size := match change with
          | none => base
          | some (sign, n) => sign.apply base (n * unit)
        let result : Except Errno Unit ← Job.call (.cut stream size)
        Job.close stream
        match result with
        | .ok () => pure 0
        | .error e =>
          Job.complainOf (Utf8.encode "failed to truncate " ++ Quoting.always path ++ Utf8.encode s!" at {size} bytes") e
          pure 1

end LineShell.Machine.Touching
