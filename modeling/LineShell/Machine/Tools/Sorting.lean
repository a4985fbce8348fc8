import LineShell.Machine.Question
import LineShell.Machine.Tools.Choice
import LineShell.Machine.Tools.LineOrder

/-!
Sorting the lines of files, merging files that are sorted, and finding out whether one is.
-/

namespace LineShell.Machine.Sorting

open LineOrder

/-- Where the blanks are left out that a letter asks for. -/
inductive Side where
  | start
  | stop
  | both
  deriving DecidableEq, Repr

/-- Adds what a letter says about an order; none if it says nothing. -/
def withLetter? (side : Side) (s : KeyStyle) (letter : UInt8) : Option KeyStyle :=
  match Char.ofNat letter.toNat with
  | 'b' => some { s with
      dropsBlanksBefore := s.dropsBlanksBefore || side != .stop
      dropsBlanksBehind := s.dropsBlanksBehind || side != .start }
  | 'd' => some { s with isDictionary := true, isPrintable := false }
  | 'f' => some { s with folds := true }
  | 'g' => some { s with isGeneral := true }
  | 'h' => some { s with isHuman := true }
  | 'i' => some (if s.isDictionary then s else { s with isPrintable := true })
  | 'M' => some { s with isMonth := true }
  | 'n' => some { s with isNumeric := true }
  | 'R' => some { s with isRandom := true }
  | 'r' => some { s with isReversed := true }
  | 'V' => some { s with isVersion := true }
  | _ => none

/-- Reads letters about an order, as far as they go. -/
def withLetters (side : Side) : KeyStyle → Bytes → KeyStyle × Bytes
  | s, [] => (s, [])
  | s, b :: bs =>
    match withLetter? side s b with
    | some s => withLetters side s bs
    | none => (s, b :: bs)

/-- The letters that say what an order says. -/
def letters (s : KeyStyle) : String :=
  let flags := [(s.dropsBlanksBefore || s.dropsBlanksBehind, 'b'), (s.isDictionary, 'd'), (s.folds, 'f'),
    (s.isGeneral, 'g'), (s.isHuman, 'h'), (s.isPrintable, 'i'), (s.isMonth, 'M'), (s.isNumeric, 'n'),
    (s.isRandom, 'R'), (s.isReversed, 'r'), (s.isVersion, 'V')]
  String.ofList (flags.filterMap fun f => if f.1 then some f.2 else none)

/-- A line can be compared in one of these ways only. -/
def isContradictory (s : KeyStyle) : Bool :=
  1 < [s.isNumeric, s.isGeneral, s.isHuman, s.isMonth, s.isVersion || s.isRandom || s.isDictionary || s.isPrintable].count
    true

/-- Reads the number of a field or a byte. -/
def count (what : String) (bs : Bytes) : Except Bytes (Nat × Bytes) :=
  match Numeral.decimal? bs with
  | some ⟨false, n, rest⟩ => .ok (n, rest)
  | _ => .error (Utf8.encode (what ++ ": invalid count at start of ") ++ Quoting.plain bs)

/-- Reads a key. -/
def key (text : Bytes) : Except Bytes Key := do
  let refuse {α : Type} (what : String) : Except Bytes α :=
    .error (Utf8.encode (what ++ ": invalid field specification ") ++ Quoting.plain text)
  let (field, rest) ← count "invalid number at field start" text
  if field = 0 then refuse "field number is zero"
  let (skipped, rest) ← match rest with
    | 0x2E :: rest => do
      let (n, rest) ← count "invalid number after '.'" rest
      if n = 0 then refuse "character offset is zero"
      pure (n - 1, rest)
    | rest => pure (0, rest)
  let (style, rest) := withLetters .start {} rest
  let (lastField, lastLength, style, rest) ← match rest with
    | 0x2C :: rest => do
      let (last, rest) ← count "invalid number after ','" rest
      if last = 0 then refuse "field number is zero"
      let (length, rest) ← match rest with
        | 0x2E :: rest => count "invalid number after '.'" rest
        | rest => pure (0, rest)
      let (style, rest) := withLetters .stop style rest
      pure (some (last - 1), length, style, rest)
    | rest => pure (none, 0, style, rest)
  if rest ≠ [] then refuse "stray character in field spec"
  pure { field := field - 1, skipped, lastField, lastLength, style }

/-- The kinds of orders that have a word. -/
def orderWords : List (String × Char) :=
  [("general-numeric", 'g'), ("human-numeric", 'h'), ("month", 'M'), ("numeric", 'n'), ("random", 'R'),
    ("version", 'V')]

/-- What the options say about the order of all keys. -/
def commonStyle (o : Options) : Job KeyStyle :=
  o.given.foldlM (fun s (key, value) => do
    let letter : UInt8 ← match key with
      | "sort" => do pure (UInt8.ofNat (← Job.choice "--sort" orderWords (value.getD [])).toNat)
      | "ignore-leading-blanks" => pure 0x62
      | "dictionary-order" => pure 0x64
      | "ignore-case" => pure 0x66
      | "general-numeric-sort" => pure 0x67
      | "human-numeric-sort" => pure 0x68
      | "ignore-nonprinting" => pure 0x69
      | "month-sort" => pure 0x4D
      | "numeric-sort" => pure 0x6E
      | "random-sort" => pure 0x52
      | "reverse" => pure 0x72
      | "version-sort" => pure 0x56
      | _ => pure 0
    pure ((withLetter? .both s letter).getD s)) {}

/-- The separator of fields that the options give. -/
def separatorBy (o : Options) : Job (Option UInt8) :=
  (o.values "field-separator").foldlM (fun old text => do
    let new ← match text with
      | [] => Job.fail (Utf8.encode "empty tab")
      | [b] => pure b
      | text =>
        if text = Utf8.encode "\\0" then pure 0
        else Job.fail (Utf8.encode "multi-character tab " ++ Quoting.plain text)
    match old with
    | none => pure (some new)
    | some b => if b = new then pure old else Job.fail (Utf8.encode "incompatible tabs")) none

/-- Complains about options that do not go together. -/
def refuseTogether {α : Type} (letters : String) : Job α :=
  Job.fail (Utf8.encode s!"options '-{letters}' are incompatible")

/-- The order that the options ask for. -/
def orderBy (o : Options) : Job Order := do
  let keys ← (o.values "key").mapM fun text =>
    match key text with
    | .ok k => pure k
    | .error message => Job.fail message
  let separator ← separatorBy o
  let common ← commonStyle o
  let keys := keys.map fun k =>
    if k.style.isDefault ∧ !k.style.isReversed then { k with style := common } else k
  let keys := if keys = [] ∧ !common.isDefault then [{ style := common }] else keys
  match keys.find? fun k => isContradictory k.style with
  | some k =>
    refuseTogether (letters { k.style with
      dropsBlanksBefore := false, dropsBlanksBehind := false, isReversed := false })
  | none =>
    pure {
      keys, separator
      isReversed := common.isReversed
      isStable := o.has "stable"
      isUnique := o.has "unique" }

/-- The lines of a file. -/
def linesOf (lineEnd : UInt8) (name : Bytes) : Job (List Bytes) := do
  let absent (e : Errno) : Job (List Bytes) := Job.failOf (Utf8.encode "open failed: " ++ Quoting.ifNeeded name) e
  if name = Job.dash then
    match ← Job.call (.examineStream Job.input) with
    | .ok _ => pure ()
    | .error e => Job.failOf (Utf8.encode "stat failed: -") e
  Job.withOperand name absent fun stream => do
    let (lines, failure) ← Job.forLineGroups stream lineEnd ([] : List (List Bytes)) fun all lines =>
      pure (lines.map Job.Line.bytes :: all, true)
    match failure with
    | some e => Job.failOf (Utf8.encode "read failed: " ++ Quoting.ifNeeded name) e
    | none => pure lines.reverse.flatten

/-- Finds out whether a file is sorted. -/
def check (order : Order) (lineEnd : UInt8) (showsFirst : Bool) (name : Bytes) : Job Nat := do
  let lines ← linesOf lineEnd name
  match order.disorder? 1 (lines.map order.keyed) with
  | none => pure 0
  | some (number, l) =>
    if showsFirst then
      Job.complain (name ++ Utf8.encode s!":{number}: disorder: " ++ l.line)
    pure 1

/-- The files that are not there, or must not be read, end the program before anything is read. -/
def checkInputs (names : List Bytes) : Job Unit :=
  names.forM fun name => do
    if name ≠ Job.dash then
      match ← Job.call (.examine ⟨name⟩ true) with
      | .error e => Job.failOf (Utf8.encode "cannot read: " ++ Quoting.ifNeeded name) e
      | .ok status =>
        if Question.readable.answer (.ok status) then pure ()
        else Job.failOf (Utf8.encode "cannot read: " ++ Quoting.ifNeeded name) .eacces

/-- Writes the sorted lines to the output, which may be a file with a name. -/
def put (name : Bytes) (bytes : Bytes) : Job Nat := do
  let check (what : String) : Job Unit := do
    match (← get).failure with
    | none => pure ()
    | some e => do
      set ({} : Pending)
      Job.complainOf (Utf8.encode (what ++ " failed: ") ++ Quoting.ifNeeded name) e
      Job.failText "write error"
  Job.print bytes
  check "write"
  Job.flush
  check "fflush"
  pure 0

/-- A key in the old spelling, that counts fields and bytes from zero. -/
def oldPosition? (text : Bytes) : Option (Nat × Nat × Bytes) := do
  let (field, rest) ← Numeral.digits? 10 text
  match rest with
  | 0x2E :: rest =>
    let (skipped, rest) ← Numeral.digits? 10 rest
    pure (field, skipped, rest)
  | rest => pure (field, 0, rest)

/-- Only letters that say something about an order. -/
def isLetters (text : Bytes) : Bool := (withLetters .start {} text).2 = []

/-- Writes keys in the old spelling as the values of an option. -/
def withOldKeys : List Bytes → List Bytes
  | [] => []
  | [0x2D, 0x2D] :: rest => [0x2D, 0x2D] :: rest
  | (0x2B :: text) :: rest =>
    match oldPosition? text with
    | none => (0x2B :: text) :: withOldKeys rest
    | some (field, skipped, letters) =>
      if !isLetters letters then (0x2B :: text) :: withOldKeys rest
      else
        let front := Utf8.encode s!"-k{field + 1}.{skipped + 1}" ++ letters
        match rest with
        | (0x2D :: b :: bs) :: more =>
          match oldPosition? (b :: bs) with
          | some (field, length, letters) =>
            let last := if length = 0 then field else field + 1
            (front ++ Utf8.encode s!",{last}.{length}" ++ letters) :: withOldKeys more
          | none => front :: withOldKeys ((0x2D :: b :: bs) :: more)
        | rest => front :: withOldKeys rest
  | a :: rest => a :: withOldKeys rest

/-- Sorts the lines of files. -/
def run : Job Nat := Job.withFailureCode 2 do
  let args := withOldKeys (← Job.args)
  let o ← Job.optionsOf
    "b|ignore-leading-blanks c check=? C d|dictionary-order f|ignore-case g|general-numeric-sort h|human-numeric-sort i|ignore-nonprinting k|key= m|merge M|month-sort n|numeric-sort o|output= r|reverse R|random-sort random-source= s|stable S|buffer-size= t|field-separator= T|temporary-directory= u|unique V|version-sort z|zero-terminated sort= parallel= batch-size= compress-program= debug"
    true args
  let order ← orderBy o
  let lineEnd := if o.has "zero-terminated" then 0 else Lines.newline
  let names := if o.operands = [] then [Job.dash] else o.operands
  let outputs := (o.values "output").eraseDups
  if 1 < outputs.length then Job.failText "multiple output files specified"
  let quiet ← Job.choiceOf o "check" [("quiet", true), ("silent", true), ("diagnose-first", false)] false
  let checksQuietly := o.has "C" || quiet
  let checksLoudly := o.has "c" || (o.has "check" && !quiet)
  if checksQuietly || checksLoudly then
    let letter := if checksQuietly then "C" else "c"
    if checksQuietly && checksLoudly then refuseTogether "cC"
    match names, outputs with
    | _ :: extra :: _, _ =>
      Job.fail (Utf8.encode "extra operand " ++ Quoting.always extra ++
        Utf8.encode (" not allowed with -" ++ letter))
    | _, _ :: _ => refuseTogether (letter ++ "o")
    | names, _ => check order lineEnd (!checksQuietly) (names.headD Job.dash)
  else
    checkInputs names
    let goal ← match outputs with
      | [] => pure none
      | path :: _ =>
        match ← Job.call (.openFile ⟨path⟩ { writes := true, creates := true }) with
        | .ok stream => pure (some (path, stream))
        | .error e => Job.failOf (Utf8.encode "open failed: " ++ Quoting.ifNeeded path) e
    let files ← names.mapM (linesOf lineEnd)
    let sorted := if o.has "merge" then order.merge (files.map fun ls => ls.map order.keyed)
      else order.sort (files.flatten.map order.keyed)
    let bytes := (sorted.map fun l => l.line ++ [lineEnd]).flatten
    match goal with
    | none => put (Utf8.encode "standard output") bytes
    | some (path, stream) =>
      let _ ← Job.call (.cut stream 0)
      let _ ← Job.call (.duplicate stream Job.output)
      put path bytes

end LineShell.Machine.Sorting
