import LineShell.Machine.Tools.Listing

/-!
The ways to list entries that options ask for. Of options that say the same thing in different ways the last one
counts.
-/

namespace LineShell.Machine.Listing

/-! ### Options -/

/-- The options that there are. -/
def optionLine : String :=
  "a|all b|escape c d|directory f g h|human-readable i|inode k|kibibytes l m n|numeric-uid-gid o p q|hide-control-chars r|reverse s|size t u v w|width= x A|almost-all B|ignore-backups C D|dired F classify=? G|no-group H|dereference-command-line I|ignore= L|dereference N|literal Q|quote-name R|recursive S T|tabsize= U X Z|context 1 author block-size= color=? dereference-command-line-symlink-to-dir file-type format= full-time group-directories-first hide= hyperlink=? indicator-style= quoting-style= show-control-chars si sort= time= time-style= zero"

/-- The words for when something is done. -/
def occasions : List (String × Option Bool) :=
  [("always", some true), ("yes", some true), ("force", some true), ("never", some false), ("no", some false),
    ("none", some false), ("auto", none), ("tty", none), ("if-tty", none)]

/-- The words for formats. -/
def formats : List (String × Format) :=
  [("verbose", .long), ("long", .long), ("commas", .commas), ("horizontal", .rows), ("across", .rows),
    ("vertical", .columns), ("single-column", .lines)]

/-- The words for what entries are ordered by. -/
def arrangements : List (String × Arrangement) :=
  [("none", .none), ("time", .time), ("size", .size), ("extension", .extension), ("version", .version),
    ("width", .width)]

/-- The words for times of entries. -/
def times : List (String × Nat) :=
  [("atime", 0), ("access", 0), ("use", 0), ("ctime", 1), ("status", 1), ("mtime", 2), ("modification", 2),
    ("birth", 3), ("creation", 3)]

/-- The words for the entries that show what they are. -/
def indications : List (String × Indication) :=
  [("none", .none), ("slash", .directories), ("file-type", .kinds), ("classify", .all)]

/-- A word as one of some choices; a word that is none ends the program with code one. -/
def chosen {α : Type} [DecidableEq α] (key : String) (choices : List (String × α)) (word : Option Bytes) : Job α :=
  fun how => Job.choice ("--" ++ key) choices (word.getD []) { how with failureCode := 1 }

/-- The format after one more option. -/
def formatStep (before : Option Format) (option : String × Option Bytes) : Job (Option Format) :=
  let orLines := some (if before = some .long then Format.long else .lines)
  match option.1 with
  | "l" | "g" | "o" | "numeric-uid-gid" | "full-time" => pure (some .long)
  | "C" => pure (some .columns)
  | "x" => pure (some .rows)
  | "m" => pure (some .commas)
  | "1" | "zero" => pure orLines
  | "f" => pure (if before = some .long then none else before)
  | "format" => do pure (some (← chosen "format" formats option.2))
  | _ => pure before

/-- The order after one more option. -/
def arrangementStep (before : Option Arrangement) (option : String × Option Bytes) : Job (Option Arrangement) :=
  match option.1 with
  | "t" => pure (some .time)
  | "S" => pure (some .size)
  | "X" => pure (some .extension)
  | "v" => pure (some .version)
  | "U" | "f" => pure (some .none)
  | "sort" => do pure (some (← chosen "sort" arrangements option.2))
  | _ => pure before

/-- The indication after one more option. -/
def indicationStep (before : Indication) (option : String × Option Bytes) : Job Indication :=
  match option.1 with
  | "p" => pure .directories
  | "file-type" => pure .kinds
  | "F" => pure .all
  | "classify" =>
    match option.2 with
    | none => pure .all
    | some word => do
      pure (if (← chosen "classify" occasions (some word)) = some true then .all else .none)
  | "indicator-style" => chosen "indicator-style" indications option.2
  | _ => pure before

/-- The manner of quoting after one more option. -/
def mannerStep (before : Option Quoting.Manner) (option : String × Option Bytes) : Job (Option Quoting.Manner) :=
  match option.1 with
  | "escape" => pure (some .escapes)
  | "quote-name" => pure (some .double)
  | "literal" | "zero" => pure (some .literal)
  | "quoting-style" => do pure (some (← chosen "quoting-style" Quoting.manners option.2))
  | _ => pure before

/-- Options whose values only have to be right. -/
def checkOption (option : String × Option Bytes) : Job Unit := do
  match option with
  | ("color", some word) => let _ ← chosen "color" occasions (some word)
  | ("hyperlink", some word) => let _ ← chosen "hyperlink" occasions (some word)
  | ("time", word) => let _ ← chosen "time" times word
  | _ => pure ()

/-- A width, if the bytes are one. -/
def width? (bs : Bytes) : Option Nat :=
  match Numeral.read? bs with
  | some n => if n.isNegative ∨ n.rest ≠ [] then none else some n.size
  | none => none

/-- A width that an option gives, or a variable, or else a standard one. -/
def widthOf (o : Options) (key what variableName : String) (isUsed : Bool) (standard : Nat) : Job Nat := do
  let given ← o.values key |>.foldlM (fun (_ : Option Nat) word => do
    match width? word with
    | some n => pure (some n)
    | none => Job.fail (Utf8.encode s!"invalid {what}: " ++ Quoting.plain word)) none
  match given with
  | some n => pure n
  | none =>
    match ← Job.variableValue variableName with
    | none | some [] => pure standard
    | some word =>
      match isUsed, width? word with
      | false, _ => pure standard
      | true, some n => pure n
      | true, none =>
        let what := if key = "width" then "width" else what
        Job.complain (Utf8.encode s!"ignoring invalid {what} in environment variable {variableName}: " ++
          Quoting.plain word)
        pure standard

/-- How amounts are shown, after one more option. -/
def scaleStep (before : Scale × Scale) (option : String × Option Bytes) : Job (Scale × Scale) :=
  match option with
  | ("human-readable", _) => pure (.powers 1024, .powers 1024)
  | ("si", _) => pure (.powers 1000, .powers 1000)
  | ("kibibytes", _) => pure (before.1, .units 1024)
  | ("block-size", some word) => do
    if word = Utf8.encode "human-readable" then pure (.powers 1024, .powers 1024)
    else if word = Utf8.encode "si" then pure (.powers 1000, .powers 1000)
    else
      match Amount.read "KMGTPEZYkmgt" word with
      | .ok 0 | .error _ => Job.fail (Utf8.encode "invalid --block-size argument " ++ Quoting.plain word)
      | .ok n => pure (.units n, .units n)
  | _ => pure before

/-! ### Dates -/

/-- Half a year, in seconds. -/
def halfYear : Int := 15778476

/-- The date lies so close before the other one that its time of day is shown. -/
def isRecent (now d : Date) : Bool := d.seconds ≤ now.seconds && now.seconds - halfYear < d.seconds

/-- A time of day. -/
def clockText (d : Date) : String := Date.two d.hour ++ ":" ++ Date.two d.minute

/-- The digits of a date. -/
def dayText (d : Date) : String := s!"{d.year}-{Date.two d.month}-{Date.two d.day}"

/-- The ways to show dates. -/
def datings : List (String × (Date → Date → String)) := [
  ("full-iso", fun _ d => s!"{dayText d} {clockText d}:{Date.two d.second}.000000000 +0000"),
  ("long-iso", fun _ d => s!"{dayText d} {clockText d}"),
  ("iso", fun now d =>
    if isRecent now d then s!"{Date.two d.month}-{Date.two d.day} {clockText d}" else dayText d ++ " "),
  ("locale", fun now d =>
    let day := d.monthName ++ " " ++ Date.spaced d.day
    if isRecent now d then s!"{day} {clockText d}" else s!"{day}  {d.year}")]

/-- The way to show dates that options ask for. -/
def datingOf (o : Options) : Job (Date → Date → String) := do
  let asked := match o.last? ["full-time", "time-style"] with
    | some "full-time" => Utf8.encode "full-iso"
    | some _ => (o.value? "time-style").getD []
    | none => Utf8.encode "locale"
  let front := Utf8.encode "posix-"
  let word := if front.isPrefixOf asked then Utf8.encode "locale" else asked
  match datings.find? fun d => word.isPrefixOf (Utf8.encode d.1) && word ≠ [] with
  | some d => pure d.2
  | none =>
    if word.head? = some 0x2B then pure fun now d => (datings.getLast?.map fun x => x.2 now d).getD ""
    else
      Job.complain (Utf8.encode "invalid argument " ++ Quoting.plain asked ++ Utf8.encode " for 'time style'")
      Job.writeError (Utf8.encode ("Valid arguments are:\n  - [posix-]full-iso\n  - [posix-]long-iso\n  - [posix-]iso\n" ++
        "  - [posix-]locale\n  - +FORMAT (e.g., +%H:%M) for a 'date'-style format\n"))
      Job.hint
      Job.exit 2

/-- The manner of quoting that a variable asks for. -/
def variableManner : Job (Option Quoting.Manner) := do
  match ← Job.variableValue "QUOTING_STYLE" with
  | none => pure none
  | some word =>
    match choose Quoting.manners word with
    | .ok manner => pure (some manner)
    | .error _ =>
      Job.complain (Utf8.encode "ignoring invalid value of environment variable QUOTING_STYLE: " ++ Quoting.plain word)
      pure none

/-- The pattern that a text is. -/
def patternOf (text : Bytes) : List Script.Pattern.Item := Script.Pattern.ofField (text.map fun b => (b, false))

/-- The style that options ask for, where another one is given. -/
def styleOf (standard : Style) (o : Options) : Job Style := do
  o.given.forM checkOption
  let format := (← o.given.foldlM formatStep none).getD standard.format
  let arrangement ← o.given.foldlM arrangementStep none
  let indication ← o.given.foldlM indicationStep .none
  let manner ← o.given.foldlM mannerStep none
  let fromVariable ← if manner.isNone then variableManner else pure none
  let onLines := format == .columns || format == .rows || format == .commas
  let width ← widthOf o "width" "line width" "COLUMNS" onLines 80
  let tab ← widthOf o "tabsize" "tab size" "TABSIZE" onLines 8
  let (scale, blockScale) ← o.given.foldlM scaleStep (Scale.units 1, Scale.units 1024)
  let dating ← if format = .long then datingOf o else pure fun _ _ => ""
  let backups := if o.has "ignore-backups" then [Utf8.encode "*~", Utf8.encode ".*~"] else []
  let timed := ["c", "u", "time"].any o.has && format != .long
  let isLong := format == .long
  let following := match o.last? ["dereference-command-line", "dereference",
      "dereference-command-line-symlink-to-dir"] with
    | some "dereference" => Following.always
    | some "dereference-command-line" => .operands
    | some _ => .operandsToDirectories
    | none =>
      if o.has "directory" ∨ indication = .all ∨ isLong then .never else .operandsToDirectories
  pure {
    format, indication, width, tab, scale, blockScale, dating, following
    arrangement := arrangement.getD (if timed then .time else .name)
    manner := (manner.or fromVariable).getD standard.manner
    isReversed := o.has "reverse"
    directoriesFirst := o.has "group-directories-first"
    concealment := match o.last? ["all", "almost-all", "f"] with
      | some "almost-all" => .selfAndParent
      | some _ => .nothing
      | none => .dotted
    ignored := (backups ++ o.values "ignore").map patternOf
    hidden := (o.values "hide").map patternOf
    directoriesAsEntries := o.has "directory"
    recursive := o.has "recursive"
    showsNumbers := o.has "inode"
    showsBlocks := o.last? ["size", "f"] == some "size"
    showsOwner := !o.has "g"
    showsGroup := !(o.has "o" || o.has "no-group")
    showsAuthor := o.has "author"
    showsContext := o.has "context"
    ownersAsNumbers := o.has "numeric-uid-gid"
    masksUnseen := o.last? ["hide-control-chars", "show-control-chars", "zero"] == some "hide-control-chars"
    ending := if o.has "zero" then 0 else Lines.newline }

end LineShell.Machine.Listing
