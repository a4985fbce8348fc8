import LineShell.Machine.Printing.Directive
import LineShell.Machine.Tools.Amount
import LineShell.Machine.Tools.Choice

/-!
Lines that equal their neighbours. A run of equal lines is printed once, or all of its lines are, or it is
left out; what is compared may be a part of each line only.
-/

namespace LineShell.Machine.Neighbours

/-- Which part of a line is compared, and how. -/
structure Compared where
  fields : Nat := 0
  skipped : Nat := 0
  length : Option Nat := none
  ignoresCase : Bool := false
  deriving DecidableEq, Repr

/-- Where an empty line is put between runs. -/
inductive Separation where
  | none
  | before
  | between
  | behind
  | around
  deriving DecidableEq, Repr

/-- What is printed: lines that stand alone, the first line of a longer run, its other lines; how long the run
is; and how runs are kept apart. `showsAll` says that every line is printed. -/
structure Style where
  compared : Compared := {}
  showsSingle : Bool := true
  showsFirst : Bool := true
  showsOthers : Bool := false
  counts : Bool := false
  separation : Separation := .none
  showsAll : Bool := false
  delimiter : UInt8 := 0x0A
  deriving Repr

/-- A blank between fields. -/
def isBlank (b : UInt8) : Bool := b == 0x20 || b == 0x09 || b == Lines.newline

/-- A line without its first fields, each with the blanks before it. -/
def dropFields : Nat → Bytes → Bytes
  | 0, bs => bs
  | n + 1, bs => dropFields n ((bs.dropWhile isBlank).dropWhile (!isBlank ·))

/-- The part of a line that is compared. -/
def Compared.key (c : Compared) (line : Bytes) : Bytes :=
  let rest := (dropFields (min c.fields line.length) line).drop c.skipped
  let part := match c.length with
    | none => rest
    | some n => rest.take n
  if c.ignoresCase then Directive.upper part else part

/-- How far a text has been gone through: the last line and what of it is compared, how many lines of the run
came before it, whether a longer run has been shown, and whether anything has. -/
structure Progress where
  last : Option (Bytes × Bytes) := none
  before : Nat := 0
  hasShownRun : Bool := false
  hasShown : Bool := false

/-- The last line as it is printed, if it is. -/
def Style.show (s : Style) (line : Bytes) (isFollowed : Bool) (before : Nat) : Bytes :=
  let wanted := if before = 0 then s.showsSingle else if isFollowed then s.showsOthers else s.showsFirst
  if !wanted then []
  else
    (if s.counts then Numeral.padded 7 (before + 1) ++ [0x20] else []) ++ line ++ [s.delimiter]

/-- Goes on with a line where every run is shown; gives back what is printed. -/
def Style.stepAll (s : Style) (p : Progress) (line : Bytes) : Bytes × Progress :=
  let key := s.compared.key line
  let isNew := p.last.all (·.2 ≠ key)
  let separates : Bool := isNew && match s.separation with
    | .none => false
    | .before => true
    | .around => true
    | _ => p.hasShown
  let shown := if isNew ∨ s.showsAll then line ++ [s.delimiter] else []
  ((if separates then [s.delimiter] else []) ++ shown,
    { p with last := some (line, if isNew then key else (p.last.map Prod.snd).getD key), hasShown := true })

/-- Goes on with a line where only some runs are shown. -/
def Style.stepSome (s : Style) (p : Progress) (line : Bytes) : Bytes × Progress :=
  let key := s.compared.key line
  match p.last with
  | none => ([], { p with last := some (line, key) })
  | some (old, oldKey) =>
    if oldKey = key then
      let before := p.before + 1
      let separates := before = 1 ∧ (s.separation = .before ∨ (s.separation = .between ∧ p.hasShownRun))
      let front : Bytes := if separates then [s.delimiter] else []
      if s.showsOthers then
        (front ++ s.show old true before, { p with last := some (line, key), before })
      else (front, { p with before })
    else
      (s.show old false p.before,
        { p with last := some (line, key), before := 0, hasShownRun := p.hasShownRun || 0 < p.before })

/-- Every run is shown. -/
def Style.isWhole (s : Style) : Bool := s.showsSingle && s.showsFirst && !s.counts

/-- Goes on with a line. -/
def Style.step (s : Style) (p : Progress) (line : Bytes) : Bytes × Progress :=
  if s.isWhole then s.stepAll p line else s.stepSome p line

/-- What is printed when the text has ended. -/
def Style.finish (s : Style) (p : Progress) : Bytes :=
  if s.isWhole then
    if p.hasShown ∧ (s.separation = .behind ∨ s.separation = .around) then [s.delimiter] else []
  else
    match p.last with
    | none => []
    | some (line, _) => s.show line false p.before

/-- A number that an option has as its value; one that is too large is as large as can be. -/
def sizeOf (what : String) (a : Bytes) : Job Nat := do
  match Amount.read "" a with
  | .ok n => pure n
  | .error .tooLarge => pure Amount.greatest
  | .error .malformed => Job.fail (a ++ Utf8.encode (": invalid number of " ++ what))

/-- How many fields the options leave out. Digits alone make a number too, which begins anew behind a number
that was given the other way. -/
def fieldsBy (o : Options) : Job Nat := do
  let (n, _) ← o.given.foldlM (fun ((n, isNew) : Nat × Bool) (key, value) => do
    match key.toList with
    | [c] =>
      if c.isDigit then pure ((if isNew then 0 else n) * 10 + (c.toNat - '0'.toNat), false)
      else pure (n, isNew)
    | _ =>
      if key = "skip-fields" then pure (← sizeOf "fields to skip" (value.getD []), true)
      else pure (n, isNew)) (0, false)
  pure n

/-- A number that an option has as its value, if it was given. -/
def sizeBy (o : Options) (key what : String) : Job (Option Nat) := do
  match o.value? key with
  | none => pure none
  | some a => pure (some (← sizeOf what a))

/-- An operand that says how many bytes are left out. -/
def oldSkip? (a : Bytes) : Option Nat :=
  if a.head? = some 0x2B then (Amount.read "" a).toOption else none

/-- What the options ask for. -/
def styleBy (o : Options) : Job Style := do
  let compared : Compared := {
    fields := ← fieldsBy o
    skipped := (← sizeBy o "skip-chars" "bytes to skip").getD ((o.operands.filterMap oldSkip?).getLastD 0)
    length := ← sizeBy o "check-chars" "bytes to compare"
    ignoresCase := o.has "ignore-case" }
  let separation ← match o.last? ["D", "all-repeated"] with
    | some "all-repeated" =>
      Job.choiceOf o "all-repeated" [("none", Separation.none), ("prepend", .before), ("separate", .between)] .none
    | _ => pure .none
  let grouping ← Job.choiceOf o "group"
    [("prepend", Separation.before), ("append", .behind), ("separate", .between), ("both", .around)] .between
  let repeats := o.has "D" || o.has "all-repeated"
  let isGrouped := o.has "group"
  if isGrouped ∧ (repeats || o.has "count" || o.has "repeated" || o.has "unique") then
    Job.refuse (Utf8.encode "--group is mutually exclusive with -c/-d/-D/-u")
  else if repeats ∧ o.has "count" then
    Job.refuse (Utf8.encode "printing all duplicated lines and repeat counts is meaningless")
  else
    pure {
      compared
      showsSingle := !(repeats || o.has "repeated")
      showsFirst := !o.has "unique"
      showsOthers := repeats
      counts := o.has "count"
      separation := if isGrouped then grouping else separation
      showsAll := isGrouped
      delimiter := if o.has "zero-terminated" then 0 else Lines.newline }

/-- Takes another file as a stream; the program ends if it cannot be opened. -/
def redirect (stream : Nat) (name : Bytes) (mode : OpenMode) : Job Unit := do
  if name ≠ Job.dash then
    Job.close stream
    match ← Job.call (.openFile ⟨name⟩ mode) with
    | .error e => Job.failOf (Quoting.ifNeeded name) e
    | .ok opened =>
      if opened ≠ stream then
        let _ ← Job.call (.duplicate opened stream)
        Job.close opened

/-- Prints the lines of a file without those that equal the one before. -/
def run : Job Nat := do
  let o ← Job.options
    "0 1 2 3 4 5 6 7 8 9 c|count d|repeated D all-repeated=? f|skip-fields= group=? i|ignore-case s|skip-chars= u|unique w|check-chars= z|zero-terminated"
  let files := o.operands.filter fun a => (oldSkip? a).isNone
  match files[2]? with
  | some extra => Job.refuse (Utf8.encode "extra operand " ++ Quoting.plain extra)
  | none => pure ()
  let style ← styleBy o
  let source := files.headD Job.dash
  redirect Job.input source { reads := true }
  redirect Job.output ((files[1]?).getD Job.dash) { writes := true, creates := true, truncates := true }
  let (p, failure) ← Job.forLineGroups Job.input style.delimiter ({} : Progress) fun p lines => do
    let (out, p) := lines.foldl (fun ((out, p) : List Bytes × Progress) line =>
      let (shown, p) := style.step p line.bytes
      (shown :: out, p)) ([], p)
    Job.print out.reverse.flatten
    pure (p, true)
  match failure with
  | some e =>
    Job.failOf (Utf8.encode "error reading " ++ Quoting.always source) e
  | none =>
    Job.print (style.finish p)
    pure 0

end LineShell.Machine.Neighbours
