import LineShell.Machine.Tools.Amount
import LineShell.Machine.Tools.Options

/-!
Printing the first or the last part of files. What comes first is printed as it is read, and a file that can
be read from any place is left where the printing stopped.
-/

namespace LineShell.Machine.Parts

/-- How much of each file is wanted: lines or bytes; all but so many, or from there on, if `isOther`. -/
structure Wanted where
  countsBytes : Bool := false
  count : Nat := 10
  isOther : Bool := false
  delimiter : UInt8 := 0x0A
  deriving Repr

/-- The input as it is called in titles and complaints. -/
def shownName (name : Bytes) : Bytes := if name = Job.dash then Utf8.encode "standard input" else name

/-- Prints bytes; a failure to write ends the program. -/
def put (bytes : Bytes) : Job Unit := do
  Job.print bytes
  match (← get).failure with
  | none => pure ()
  | some e => Job.giveUp (Utf8.encode "error writing 'standard output'") e

/-- How much is read at a time. -/
def chunkSize : Nat := 8192

/-- A part of bytes: up to the delimiter that ends so many lines, what is left, and how many lines are still
wanted. -/
def takeLines (delimiter : UInt8) : Nat → Bytes → Bytes → Bytes × Bytes × Nat
  | 0, done, bs => (done.reverse, bs, 0)
  | n, done, [] => (done.reverse, [], n)
  | n + 1, done, b :: bs =>
    if b = delimiter then takeLines delimiter n (b :: done) bs else takeLines delimiter (n + 1) (b :: done) bs

/-- Prints the first lines of a stream. -/
def firstLines (delimiter : UInt8) (stream count : Nat) : Job (Option Errno) :=
  Job.loop count fun left => do
    if left = 0 then pure (.inr none)
    else
      match ← Job.call (.read stream chunkSize) with
      | .error e => pure (.inr (some e))
      | .ok [] => pure (.inr none)
      | .ok chunk => do
        let (out, rest, left) := takeLines delimiter left [] chunk
        if rest ≠ [] then
          let _ ← Job.call (.seek stream .here (-(rest.length : Int)))
        put out
        pure (.inl left)

/-- Prints the first bytes of a stream. -/
def firstBytes (stream count : Nat) : Job (Option Errno) :=
  Job.loop count fun left => do
    if left = 0 then pure (.inr none)
    else
      match ← Job.call (.read stream (min left chunkSize)) with
      | .error e => pure (.inr (some e))
      | .ok [] => pure (.inr none)
      | .ok chunk => do
        put chunk
        pure (.inl (left - chunk.length))

/-- The lines of bytes, each with its delimiter, from the last one to the first. -/
def linesReversed (delimiter : UInt8) (bs : Bytes) : List Bytes :=
  let (lines, current) := bs.foldl (fun (lines, current) b =>
    if b = delimiter then ((b :: current).reverse :: lines, []) else (lines, b :: current))
    (([] : List Bytes), ([] : Bytes))
  if current = [] then lines else current.reverse :: lines

/-- Bytes without their last lines or bytes. -/
def withoutLast (w : Wanted) (bs : Bytes) : Bytes :=
  if w.countsBytes then bs.take (bs.length - w.count)
  else ((linesReversed w.delimiter bs).drop w.count).reverse.flatten

/-- The last of some chunks, the newest of which comes first, that hold so many lines. -/
def enough (delimiter : UInt8) (count : Nat) : List Bytes → Nat → List Bytes → Bytes
  | [], _, kept => kept.flatten
  | c :: cs, seen, kept =>
    if count < seen then kept.flatten
    else enough delimiter count cs (seen + c.count delimiter) (c :: kept)

/-- Reads a stream to its end; the newest chunk comes first. -/
def chunksOf (stream : Nat) : Job (Except Errno (List Bytes)) :=
  Job.loop [] fun (chunks : List Bytes) => do
    match ← Job.call (.read stream Job.chunkSize) with
    | .error e => pure (.inr (.error e))
    | .ok [] => pure (.inr (.ok chunks))
    | .ok chunk => pure (.inl (chunk :: chunks))

/-- Prints the last part of a stream. -/
def lastPart (w : Wanted) (stream : Nat) : Job (Option Errno) := do
  match ← chunksOf stream with
  | .error e => pure (some e)
  | .ok chunks =>
    if w.countsBytes then
      let size := (chunks.map List.length).foldl (· + ·) 0
      put (chunks.reverse.flatten.drop (size - w.count))
    else if 0 < w.count then
      let bytes := enough w.delimiter w.count chunks 0 []
      put ((linesReversed w.delimiter bytes).take w.count).reverse.flatten
    pure none

/-- Prints a stream from some line or byte on. -/
def fromPart (w : Wanted) (stream : Nat) : Job (Option Errno) := do
  let (_, failure) ← Job.forChunks stream Job.chunkSize (w.count - 1) fun left chunk => do
    if w.countsBytes then
      put (chunk.drop left)
      pure (left - chunk.length, true)
    else
      let (_, rest, left) := takeLines w.delimiter left [] chunk
      put rest
      pure (left, true)
  pure failure

/-- Prints the first part of a stream. -/
def firstPart (w : Wanted) (stream : Nat) : Job (Option Errno) := do
  if w.isOther then
    match ← Job.readAll stream with
    | .error e => pure (some e)
    | .ok bytes => do
      put (withoutLast w bytes)
      pure none
  else if w.countsBytes then firstBytes stream w.count
  else firstLines w.delimiter stream w.count

/-- Prints the title of a file. -/
def title (isFirst : Bool) (name : Bytes) : Job Unit :=
  put (Utf8.encode (if isFirst then "==> " else "\n==> ") ++ shownName name ++ Utf8.encode " <==\n")

/-- Prints a part of each file. -/
def each (part : Nat → Job (Option Errno)) (showsTitles : Bool) (operands : List Bytes) : Job Nat := do
  let (_, code) ← operands.foldlM (fun (isFirst, code) operand =>
    Job.withOperand operand
      (fun e => do
        Job.complainOf (Utf8.encode "cannot open " ++ Quoting.always operand ++ Utf8.encode " for reading") e
        pure (isFirst, 1))
      fun stream => do
        if showsTitles then title isFirst operand
        match ← part stream with
        | none => pure (false, code)
        | some e => do
          Job.complainOf (Utf8.encode "error reading " ++ Quoting.always (shownName operand)) e
          pure (false, 1)) (true, 0)
  pure code

/-- Sees to it that the input can be closed if it has been read. -/
def closeInput (operands : List Bytes) (code : Nat) : Job Nat := do
  if operands.contains Job.dash then
    match ← Job.call (.close Job.input) with
    | .ok () => pure code
    | .error e => Job.failOf Job.dash e
  else pure code

/-- Titles are shown for more than one file, unless options say otherwise. -/
def showsTitles (o : Options) : Bool :=
  match o.last? ["quiet", "silent", "verbose"] with
  | some "verbose" => true
  | some _ => false
  | none => 1 < o.operands.length

/-- What options ask for; a sign of its own in front of a number asks for the other part. -/
def wantedBy (o : Options) (turn : UInt8) : Job Wanted := do
  let delimiter : UInt8 := if o.has "zero-terminated" then 0 else Lines.newline
  match o.last? ["bytes", "lines"] with
  | none => pure { delimiter }
  | some key =>
    let value := (o.value? key).getD []
    let isOther := value.head? = some turn
    let value' := if isOther ∧ turn = 0x2D then value.drop 1
      else if turn = 0x2B ∧ value.head? = some 0x2D then value.drop 1
      else value
    let count ← match Amount.read Amount.letters value' with
      | .ok n => pure n
      | .error e =>
        let shown := if isOther ∧ turn = 0x2D then value' else value
        Job.fail (Utf8.encode ("invalid number of " ++ key ++ ": ") ++ Quoting.plain shown ++ Amount.reason e)
    pure { countsBytes := key == "bytes", count, isOther, delimiter }

/-- Options that are numbers are written as the value of another option; letters may stand behind the number. -/
def numberOption (args : List Bytes) : Job (List Bytes) := do
  match args with
  | (0x2D :: b :: bs) :: rest =>
    if Numeral.isDigit b then
      let ds := (b :: bs).takeWhile Numeral.isDigit
      let letters := (b :: bs).drop ds.length
      match letters.find? fun l => !(Utf8.encode "cbkmlqvz").contains l with
      | some l => Job.refuse (Utf8.encode "invalid trailing option -- " ++ [l])
      | none =>
        let unit : Bytes := letters.filter fun l => l == 0x62 || l == 0x6B || l == 0x6D
        let front : Bytes := if letters.contains 0x63 ∨ unit ≠ [] then [0x2D, 0x63] else [0x2D, 0x6E]
        let others := letters.filter fun l => l == 0x71 || l == 0x76 || l == 0x7A
        pure ((front ++ ds ++ unit.take 1) :: (if others = [] then [] else [0x2D :: others]) ++ rest)
    else pure args
  | args => pure args

/-- Prints the first part of each file. -/
def head : Job Nat := do
  let args ← numberOption (← Job.args)
  let o ← Job.optionsOf "c|bytes= n|lines= q|quiet silent v|verbose z|zero-terminated" true args
  let w ← wantedBy o 0x2D
  let operands := if o.operands = [] then [Job.dash] else o.operands
  let code ← each (firstPart w) (showsTitles { o with operands }) operands
  closeInput operands code

/-- The old way to say what is wanted of one file at most. -/
def oldOption (args : List Bytes) : Job (List Bytes) := do
  let isOld : Bool := match args with
    | [_] => true
    | [_, file] => !(file.head? == some 0x2D && 1 < file.length) || file == [0x2D, 0x2D]
    | [_, [0x2D, 0x2D], _] => true
    | _ => false
  match args with
  | (0x2D :: b :: bs) :: rest =>
    let ds := (b :: bs).takeWhile Numeral.isDigit
    let letters := (b :: bs).drop ds.length
    let isShape := [([] : Bytes), [0x63], [0x6C], [0x62]].contains letters && !(ds = [] && letters.contains 0x63)
    if isOld ∧ isShape ∧ (ds ≠ [] ∨ letters ≠ []) then
      let count := if ds = [] then [0x31, 0x30] else ds
      if letters = [0x63] then pure ((Utf8.encode "-c" ++ count) :: rest)
      else if letters = [0x62] then pure ((Utf8.encode "-c" ++ count ++ [0x62]) :: rest)
      else pure ((Utf8.encode "-n" ++ count) :: rest)
    else if Numeral.isDigit b then
      Job.fail (Utf8.encode "option used in invalid context -- " ++ [b])
    else pure args
  | (0x2B :: b :: bs) :: rest =>
    if isOld ∧ Numeral.isDigit b then
      let ds := (b :: bs).takeWhile Numeral.isDigit
      match (b :: bs).drop ds.length with
      | [] | [0x6C] => pure ((Utf8.encode "-n+" ++ ds) :: rest)
      | [0x63] => pure ((Utf8.encode "-c+" ++ ds) :: rest)
      | _ => pure args
    else pure args
  | args => pure args

/-- Prints the last part of each file. -/
def tail : Job Nat := do
  let args ← oldOption (← Job.args)
  match args.find? fun a => (a.head? = some 0x2D) && (a[1]?.any Numeral.isDigit) with
  | some a => Job.fail (Utf8.encode "option used in invalid context -- " ++ (a.drop 1).take 1)
  | none => pure ()
  let o ← Job.optionsOf
    "c|bytes= f|follow=? F n|lines= q|quiet silent v|verbose z|zero-terminated s|sleep-interval= pid= retry max-unchanged-stats=" true args
  let w ← wantedBy o 0x2B
  let operands := if o.operands = [] then [Job.dash] else o.operands
  let showsTitles := showsTitles { o with operands }
  let isOpen ← Job.call (.examineStream Job.input)
  let part (stream : Nat) : Job (Option Errno) := if w.isOther then fromPart w stream else lastPart w stream
  let code ← match operands.contains Job.dash, isOpen with
    | true, .error e => do
      let (_, code) ← operands.foldlM (fun (_, code) operand => do
        if operand = Job.dash then
          Job.complainOf (Utf8.encode "cannot fstat 'standard input'") e
          pure (false, 1)
        else do
          let c ← each part showsTitles [operand]
          pure (false, max code c)) (true, 0)
      pure code
    | _, _ => each part showsTitles operands
  let follows := (o.has "follow" || o.has "F") && operands != [Job.dash]
  if follows then
    Job.flush
    Job.forever
  else closeInput operands code

end LineShell.Machine.Parts
