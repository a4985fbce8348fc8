import LineShell.Machine.Lookup
import LineShell.Machine.Script.Pattern
import LineShell.Machine.Tools.Choice
import LineShell.Machine.Tools.RegexReader
import LineShell.Text.ByteOrder

/-!
Printing the lines in which a pattern matches, with lines around them, with their places, or only the parts
that match; or counting them, or only finding out whether there are any.
-/

namespace LineShell.Machine.Searching

/-- What is looked for. -/
structure Search where
  patterns : List Regex
  folds : Bool := false
  wholeLine : Bool := false
  wholeWords : Bool := false
  isInverted : Bool := false

/-- A match may start and stop at these places. -/
def Search.allows (s : Search) (subject : Regex.Subject) (start stop : Nat) : Bool :=
  (!s.wholeLine || (start == 0 && stop == subject.line.size)) &&
    (!s.wholeWords || (!subject.wordBefore start && !subject.wordAfter stop))

/-- Where matches that start at a place may stop. -/
def Search.stops (s : Search) (subject : Regex.Subject) (start : Nat) : List Nat :=
  s.patterns.flatMap fun r =>
    ((r.ends subject [{ place := start }]).map Regex.Spot.place).filter (s.allows subject start)

/-- The line holds a match. Where it does not matter where one starts, all places are tried at once. -/
def Search.occursIn (s : Search) (line : Bytes) : Bool :=
  let subject : Regex.Subject := ⟨line.toArray, s.folds⟩
  if s.wholeLine then s.stops subject 0 ≠ []
  else if s.wholeWords then (List.range (subject.line.size + 1)).any fun start => s.stops subject start ≠ []
  else
    let spots : List Regex.Spot := (List.range (subject.line.size + 1)).map fun place => { place }
    s.patterns.any fun r => r.ends subject spots ≠ []

/-- The line is one of those that are wanted. -/
def Search.selects (s : Search) (line : Bytes) : Bool := s.occursIn line != s.isInverted

/-- The matches in a line, from left to right, each as long as it can be: where they start, and their bytes.
Empty ones are left out. -/
def Search.matchesIn (s : Search) (line : Bytes) : List (Nat × Bytes) :=
  let subject : Regex.Subject := ⟨line.toArray, s.folds⟩
  let rec go : Nat → Nat → List (Nat × Bytes)
    | 0, _ => []
    | n + 1, start =>
      match (s.stops subject start).max? with
      | none => go n (start + 1)
      | some stop =>
        if stop ≤ start then go n (start + 1)
        else (start, (line.drop start).take (stop - start)) :: go n stop
  go (line.length + 1) 0

/-- What is printed of each file. -/
inductive Listing where
  | lines
  | count
  | withMatch
  | withoutMatch
  | nothing
  deriving DecidableEq, Repr

/-- How lines are printed. -/
structure Style where
  search : Search
  listing : Listing := .lines
  onlyMatching : Bool := false
  showsNames : Bool := false
  showsNumbers : Bool := false
  showsOffsets : Bool := false
  alignsTabs : Bool := false
  endsNames : Bool := false
  hasContext : Bool := false
  before : Nat := 0
  after : Nat := 0
  groupSeparator : Option Bytes := some [0x2D, 0x2D]
  limit : Option Nat := none
  lineEnd : UInt8 := 0x0A
  isText : Bool := false
  skipsBinary : Bool := false
  skipsDirectories : Bool := false
  isRecursive : Bool := false
  followsLinks : Bool := false
  namesBelow : Bool := true
  isSilent : Bool := false
  included : List (List Script.Pattern.Item) := []
  excluded : List (List Script.Pattern.Item) := []
  excludedDirectories : List (List Script.Pattern.Item) := []
  label : Bytes := Utf8.encode "(standard input)"

/-- A line with its number and the place where it starts. -/
structure Placed where
  line : Bytes
  number : Nat
  offset : Nat

/-- How far a file has been searched: the lines and bytes gone through, the lines selected, how many more may
be, how many are still shown behind the last one, those kept in case one follows, whether some were left out
since the last that was shown, where the last selected line ends, whether the file counts as binary, and whether
a selected line was not shown because of that. -/
structure Progress where
  number : Nat := 0
  offset : Nat := 0
  selected : Nat := 0
  left : Option Nat
  pending : Nat := 0
  kept : List Placed := []
  hasGap : Bool := true
  selectedEnd : Nat := 0
  isBinary : Bool := false
  hasHidden : Bool := false
  isDone : Bool := false

/-- Only the first selected line matters. -/
def Style.stopsAtFirst (s : Style) : Bool :=
  s.listing == .withMatch || s.listing == .withoutMatch || s.listing == .nothing

/-- What stands before a line. -/
def Style.front (s : Style) (name : Bytes) (mark : UInt8) (number offset : Nat) : Bytes :=
  let front :=
    (if s.showsNames then name ++ [if s.endsNames then 0 else mark] else []) ++
    (if s.showsNumbers then Numeral.text number ++ [mark] else []) ++
    (if s.showsOffsets then Numeral.text offset ++ [mark] else [])
  if s.alignsTabs ∧ front ≠ [] then front ++ [0x09] else front

/-- A line as it is shown; `isSelected` tells it from those around it. -/
def Style.shown (s : Style) (name : Bytes) (isSelected : Bool) (p : Placed) : Bytes :=
  let mark : UInt8 := if isSelected then 0x3A else 0x2D
  if s.onlyMatching then
    if isSelected ∧ !s.search.isInverted then
      ((s.search.matchesIn p.line).map fun (start, bytes) =>
        s.front name mark p.number (p.offset + start) ++ bytes ++ [s.lineEnd]).flatten
    else []
  else s.front name mark p.number p.offset ++ p.line ++ [s.lineEnd]

/-- Goes on with a line; `hasShown` says whether anything has been printed yet. -/
def Style.step (s : Style) (name : Bytes) (hasShown : Bool) (p : Progress) (line : Bytes) : Bytes × Bool × Progress :=
  if p.isDone then ([], hasShown, p)
  else
    let placed : Placed := ⟨line, p.number + 1, p.offset⟩
    let p := { p with number := p.number + 1, offset := p.offset + line.length + 1 }
    let isSelected := s.search.selects line
    if isSelected ∧ p.left ≠ some 0 then
      let p := { p with
        selected := p.selected + 1, left := p.left.map (· - 1), selectedEnd := p.offset }
      if s.listing ≠ .lines ∨ p.isBinary then
        let hasHidden := p.isBinary && s.listing == .lines
        ([], hasShown, { p with hasHidden, isDone := s.stopsAtFirst || hasHidden || p.left == some 0 })
      else
        let separator : Bytes := match s.groupSeparator with
          | some text => if s.hasContext ∧ hasShown ∧ p.hasGap then text ++ [s.lineEnd] else []
          | none => []
        let around := (p.kept.reverse.map (s.shown name false)).flatten
        (separator ++ around ++ s.shown name true placed, true,
          { p with kept := [], hasGap := false, pending := s.after, isDone := p.left == some 0 && s.after == 0 })
    else if p.left = some 0 ∧ (isSelected ∨ p.pending = 0) then ([], hasShown, { p with isDone := true })
    else if 0 < p.pending then
      let pending := p.pending - 1
      (s.shown name false placed, hasShown,
        { p with pending, isDone := p.left == some 0 && pending == 0 })
    else
      let kept := (placed :: p.kept).take s.before
      ([], hasShown, { p with kept, hasGap := p.hasGap || s.before ≤ p.kept.length })

/-- How much is read at a time. -/
def chunkSize : Nat := 98304

/-- Goes on with lines. -/
def Style.steps (s : Style) (name : Bytes) (hasShown : Bool) (p : Progress) (lines : List Bytes) :
    Bytes × Bool × Progress :=
  let (out, hasShown, p) := lines.foldl (fun ((out, hasShown, p) : List Bytes × Bool × Progress) line =>
    let (shown, hasShown, p) := s.step name hasShown p line
    (if shown = [] then out else shown :: out, hasShown, p)) ([], hasShown, p)
  (out.reverse.flatten, hasShown, p)

/-- Searches a stream. Where bytes that are zero turn up, the file counts as binary from there on. -/
def Style.searchStream (s : Style) (name : Bytes) (stream : Nat) (hasShown : Bool) :
    Job (Bool × Progress × Nat × Option Errno) :=
  Job.loop (hasShown, ({ left := s.limit } : Progress), ([] : List Bytes), 0)
    fun (hasShown, p, unfinished, size) => do
      if p.isDone then pure (.inr (hasShown, p, size, none))
      else
        match ← Job.call (.read stream chunkSize) with
        | .error e => pure (.inr (hasShown, p, size, some e))
        | .ok [] => do
          let rest := unfinished.reverse.flatten
          let (out, hasShown, p) := if rest = [] then ([], hasShown, p) else s.steps name hasShown p [rest]
          Job.print out
          pure (.inr (hasShown, p, size, none))
        | .ok chunk => do
          let isBinary := p.isBinary || (!s.isText && s.lineEnd != 0 && chunk.contains 0)
          if isBinary && s.skipsBinary then pure (.inr (hasShown, { p with selected := 0 }, size, none))
          else
            let bytes := if isBinary then chunk.map fun b => if b = 0 then s.lineEnd else b else chunk
            let (lines, unfinished) := Job.cutLines s.lineEnd unfinished bytes
            let (out, hasShown, p) := s.steps name hasShown { p with isBinary } lines
            Job.print out
            pure (.inl (hasShown, p, unfinished, size + chunk.length))

/-- What is known of the whole search: whether a line was selected, whether something failed, and whether
anything has been printed. -/
structure Outcome where
  hasFound : Bool := false
  hasFailed : Bool := false
  hasShown : Bool := false

/-- Complains about a file, unless it is said not to. -/
def Style.complain (s : Style) (name : Bytes) (e : Errno) (o : Outcome) : Job Outcome := do
  if !s.isSilent then Job.complainOf name e
  pure { o with hasFailed := true }

/-- The stream is the file that is written to. -/
def isOutput (stream : Nat) : Job Bool := do
  match ← Job.call (.examineStream Job.output), ← Job.call (.examineStream stream) with
  | .ok out, .ok source => pure (out.kind == .file && out.identity == source.identity)
  | _, _ => pure false

/-- Searches an open file and prints what is wanted of it. -/
def Style.searchFile (s : Style) (name : Bytes) (stream : Nat) (o : Outcome) : Job Outcome := do
  let sameAsOutput ← isOutput stream
  if s.listing == .lines && s.limit != some 1 && sameAsOutput then
    if !s.isSilent then Job.complain (name ++ Utf8.encode ": input file is also the output")
    pure { o with hasFailed := true }
  else
    let (hasShown, p, size, failure) ← s.searchStream name stream o.hasShown
    let o := { o with hasShown }
    let o ← match failure with
      | some e => s.complain name e o
      | none => pure o
    if stream = Job.input ∧ p.left = some 0 then
      let _ ← Job.call (.seek stream .here ((p.selectedEnd : Int) - size))
    let ending : Bytes := [if s.endsNames then 0 else Lines.newline]
    match s.listing with
    | .count =>
      if failure.isNone then
        Job.print ((if s.showsNames then name ++ [if s.endsNames then 0 else 0x3A] else []) ++
          Numeral.text p.selected ++ [Lines.newline])
    | .withMatch => if 0 < p.selected then Job.print (name ++ ending)
    | .withoutMatch => if p.selected = 0 ∧ failure.isNone then Job.print (name ++ ending)
    | .lines =>
      if p.hasHidden then Job.complain (name ++ Utf8.encode ": binary file matches")
    | .nothing => if 0 < p.selected then Job.exit 0
    pure { o with hasFound := o.hasFound || 0 < p.selected }

/-- A pattern stands for the path, or for its last name. -/
def standsFor (patterns : List (List Script.Pattern.Item)) (path : Bytes) : Bool :=
  let last := ((⟨path⟩ : Path).names.getLast?).getD path
  patterns.any fun p => Script.Pattern.accepts p path || Script.Pattern.accepts p last

/-- The file is left out because of its name. -/
def Style.leavesOut (s : Style) (path : Bytes) (isDirectory : Bool) : Bool :=
  if isDirectory then standsFor s.excludedDirectories path
  else standsFor s.excluded path || (s.included ≠ [] && !standsFor s.included path)

/-- Searches what a name leads to, and below directories if that is wanted, so deep at most. -/
def Style.searchPath (s : Style) : Nat → Bytes → Bool → Outcome → Job Outcome
  | 0, _, _, o => pure o
  | depth + 1, path, isNamed, o => do
    let status ← Job.call (.examine ⟨path⟩ (isNamed || s.followsLinks))
    let isDirectory := status.toOption.any (·.kind == .directory)
    let isPassed := !isNamed && status.toOption.any fun status => status.kind != .file && status.kind != .directory
    if s.leavesOut path isDirectory then pure o
    else if isDirectory && s.isRecursive then
      match ← Job.call (.list ⟨path⟩) with
      | .error e => s.complain path e o
      | .ok names =>
        let s := if isNamed ∧ s.namesBelow then { s with showsNames := true } else s
        (sortBytes names).foldlM (fun o name =>
          let below := if path.getLast? = some Path.slash then path ++ name else path ++ Path.slash :: name
          s.searchPath depth below false o) o
    else if isPassed || (isDirectory && s.skipsDirectories) then pure o
    else
      match ← Job.openToRead path with
      | .error e => s.complain path e o
      | .ok stream =>
        let o ← s.searchFile path stream o
        Job.close stream
        pure o

/-- How deep directories are nested at most. -/
def maxDepth : Nat := 200

/-- Searches the operands. -/
def Style.searchAll (s : Style) (operands : List Bytes) : Job Outcome :=
  operands.foldlM (fun o operand =>
    if operand = Job.dash then s.searchFile s.label Job.input o
    else s.searchPath maxDepth operand true o) {}

/-- The lines of a text. -/
def linesOf (text : Bytes) : List Bytes :=
  let (lines, rest) := Job.cutLines Lines.newline [] text
  lines ++ [rest.reverse.flatten]

/-- The patterns in the files that options name. -/
def patternsIn (path : Bytes) : Job (List Bytes) := do
  let fail (e : Errno) : Job (List Bytes) := Job.failOf path e
  Job.withOperand path fail fun stream => do
    match ← Job.readAll stream with
    | .error e => fail e
    | .ok [] => pure []
    | .ok text => pure (linesOf (if text.getLast? = some Lines.newline then text.dropLast else text))

/-- The patterns that the options give, if they give any. -/
def patternsBy (o : Options) : Job (Option (List Bytes)) := do
  let given := o.given.filter fun g => g.1 == "regexp" || g.1 == "file"
  if given = [] then pure none
  else
    let lists ← given.mapM fun (key, value) =>
      if key = "file" then patternsIn (value.getD []) else pure (linesOf (value.getD []))
    pure (some lists.flatten)

/-- The letters of options that take the argument behind them as their value. -/
def valuedLetters : Bytes := Utf8.encode "efmdDABC"

/-- Options that are numbers are written as the value of another option. -/
def gatherDigits : List Bytes → List Bytes
  | [] => []
  | [0x2D, 0x2D] :: rest => [0x2D, 0x2D] :: rest
  | [0x2D, l] :: value :: rest =>
    if valuedLetters.contains l then [0x2D, l] :: value :: gatherDigits rest
    else if Numeral.isDigit l then [0x2D, 0x43, l] :: gatherDigits (value :: rest)
    else [0x2D, l] :: gatherDigits (value :: rest)
  | (0x2D :: b :: bs) :: rest =>
    (if (b :: bs).all Numeral.isDigit then 0x2D :: 0x43 :: b :: bs else 0x2D :: b :: bs) :: gatherDigits rest
  | a :: rest => a :: gatherDigits rest

/-- How many lines around others are wanted. -/
def contextBy (o : Options) (key : String) : Job (Option Nat) := do
  let read (a : Bytes) : Job Nat := match Numeral.decimal? a with
    | some ⟨false, n, []⟩ => pure n
    | _ => Job.fail (a ++ Utf8.encode ": invalid context length argument")
  (o.values key).foldlM (fun _ a => do pure (some (← read a))) none

/-- How patterns are spelled. -/
inductive Spelling where
  | plain
  | extended
  | fixed
  deriving DecidableEq, Repr

/-- The spelling that the options ask for. -/
def spellingBy (o : Options) : Job Spelling := do
  let wanted := (o.given.filterMap fun g => match g.1 with
    | "extended-regexp" => some Spelling.extended
    | "perl-regexp" => some .extended
    | "fixed-strings" => some .fixed
    | "basic-regexp" => some .plain
    | _ => none).eraseDups
  match wanted with
  | [] => pure .plain
  | [one] => pure one
  | _ => Job.failText "conflicting matchers specified"

/-- Reads the patterns; warnings are shown, and the program ends if one cannot be read. -/
def compile (spelling : Spelling) (patterns : List Bytes) : Job (List Regex) := do
  if spelling = .fixed then pure (patterns.map Regex.ofBytes)
  else
    let results := patterns.map (Regex.read (spelling == .extended))
    let faults := results.filterMap fun r => match r with
      | .error e => some e
      | .ok _ => none
    faults.forM fun e => Job.complainText e.message
    if faults ≠ [] then Job.exit 2
    let read := results.filterMap Except.toOption
    read.forM fun r => r.2.forM Job.complainText
    pure (read.map fun r => r.1.prepared)

/-- How many lines are wanted at most. -/
def limitBy (o : Options) : Job (Option Nat) :=
  match o.value? "max-count" with
  | none => pure none
  | some a =>
    match Numeral.decimal? a with
    | some ⟨isNegative, n, []⟩ => pure (if isNegative ∧ n ≠ 0 then none else some n)
    | _ => Job.failText "invalid max count"

/-- What is printed of each file, as the options say. -/
def listingBy (o : Options) : Listing :=
  if o.has "quiet" || o.has "silent" then .nothing
  else
    match o.last? ["files-with-matches", "files-without-match"] with
    | some "files-with-matches" => .withMatch
    | some _ => .withoutMatch
    | none => if o.has "count" then .count else .lines

/-- The options of the program. -/
def shapes : String :=
  "G|basic-regexp E|extended-regexp F|fixed-strings P|perl-regexp A|after-context= B|before-context= " ++
  "binary-files= U|binary b|byte-offset C|context= color=? colour=? c|count D|devices= d|directories= exclude= " ++
  "exclude-from= exclude-dir= f|file= l|files-with-matches L|files-without-match group-separator= include= " ++
  "i|ignore-case y no-ignore-case T|initial-tab label= line-buffered n|line-number x|line-regexp m|max-count= " ++
  "h|no-filename no-group-separator s|no-messages Z|null z|null-data o|only-matching q|quiet r|recursive " ++
  "R|dereference-recursive e|regexp= v|invert-match silent a|text I u|unix-byte-offsets H|with-filename w|word-regexp"

/-- The line about the usage. -/
def usage : String := "Usage: grep [OPTION]... PATTERNS [FILE]...\n"

/-- Prints the lines in which a pattern matches. -/
def run : Job Nat := Job.withFailureCode 2 <| Job.withUsage usage do
  let o ← Job.optionsOf shapes true (gatherDigits (← Job.args))
  let spelling ← spellingBy o
  let context ← contextBy o "context"
  let before ← contextBy o "before-context"
  let after ← contextBy o "after-context"
  let limit ← limitBy o
  match o.value? "devices" with
  | none => pure ()
  | some a =>
    if a = Utf8.encode "read" ∨ a = Utf8.encode "skip" then pure () else Job.failText "unknown devices method"
  let directories ← Job.choiceOf o "directories" [("read", 0), ("recurse", 1), ("skip", 2)] 0
  let (patterns, operands) ← match ← patternsBy o, o.operands with
    | some patterns, operands => pure (patterns, operands)
    | none, first :: operands => pure (linesOf first, operands)
    | none, [] =>
      Job.hint
      Job.exit 2
  if o.has "unix-byte-offsets" then Job.complainText "warning: --unix-byte-offsets (-u) is obsolete"
  if limit = some 0 then Job.exit 1
  let regexes ← compile spelling patterns
  let isRecursive := o.has "recursive" || o.has "dereference-recursive" || directories == 1
  let names : Option Bool := (o.last? ["with-filename", "no-filename"]).map (· == "with-filename")
  let search : Search := {
    patterns := regexes
    folds := match o.last? ["ignore-case", "y", "no-ignore-case"] with
      | some key => key != "no-ignore-case"
      | none => false
    wholeLine := o.has "line-regexp"
    wholeWords := o.has "word-regexp" && !o.has "line-regexp"
    isInverted := o.has "invert-match" }
  let patternsOf (key : String) : List (List Script.Pattern.Item) :=
    (o.values key).map fun text => Script.Pattern.ofField (text.map fun b => (b, false))
  let binary ← match o.value? "binary-files" with
    | none => pure []
    | some kind =>
      if ["binary", "text", "without-match"].any (Utf8.encode · == kind) then pure kind
      else Job.failText "unknown binary-files type"
  let style : Style := {
    search
    listing := listingBy o
    onlyMatching := o.has "only-matching"
    showsNames := names.getD (1 < operands.length)
    showsNumbers := o.has "line-number"
    showsOffsets := o.has "byte-offset"
    alignsTabs := o.has "initial-tab"
    endsNames := o.has "null"
    hasContext := (context.or (before.or after)).isSome
    before := (before.or context).getD 0
    after := (after.or context).getD 0
    groupSeparator := match o.last? ["group-separator", "no-group-separator"] with
      | some "no-group-separator" => none
      | some _ => o.value? "group-separator"
      | none => some [0x2D, 0x2D]
    limit
    lineEnd := if o.has "null-data" then 0 else Lines.newline
    isText := o.has "text" || binary == Utf8.encode "text"
    skipsBinary := o.has "I" || binary == Utf8.encode "without-match"
    skipsDirectories := directories == 2
    isRecursive
    followsLinks := o.has "dereference-recursive"
    namesBelow := names.isNone
    isSilent := o.has "no-messages"
    included := patternsOf "include"
    excluded := patternsOf "exclude"
    excludedDirectories := patternsOf "exclude-dir"
    label := (o.value? "label").getD (Utf8.encode "(standard input)") }
  let outcome ←
    if operands = [] ∧ isRecursive then do
      match ← Job.call (.list ⟨dot⟩) with
      | .error e => style.complain dot e {}
      | .ok found =>
        let style := { style with showsNames := names.getD true }
        (sortBytes found).foldlM (fun outcome name => style.searchPath maxDepth name false outcome) {}
    else
      style.searchAll (if operands = [] then [Job.dash] else operands)
  pure (if outcome.hasFailed then 2 else if outcome.hasFound then 0 else 1)

end LineShell.Machine.Searching
