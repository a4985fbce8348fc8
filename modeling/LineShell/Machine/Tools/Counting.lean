import LineShell.Machine.Printing.Numeral
import LineShell.Machine.Tools.Options
import LineShell.Machine.Tools.Quoting

/-!
Counting what files hold: lines, words, bytes, and how long the longest line is. The counts of all files
stand under each other, in columns as wide as the files are large.
-/

namespace LineShell.Machine.Counting

/-- The counts of a text, and where its reading stands: inside a word or not, and in what column. -/
structure Counts where
  lines : Nat := 0
  words : Nat := 0
  bytes : Nat := 0
  longest : Nat := 0
  isInWord : Bool := false
  column : Nat := 0
  deriving DecidableEq, Repr

/-- A word ends here. -/
def Counts.endWord (c : Counts) : Counts :=
  if c.isInWord then { c with words := c.words + 1, isInWord := false } else c

/-- The next byte starts a line again. -/
def Counts.endLine (c : Counts) : Counts := { c.endWord with longest := max c.longest c.column, column := 0 }

/-- Counts one byte. White space ends a word, and what cannot be shown is part of none. -/
def Counts.step (c : Counts) (b : UInt8) : Counts :=
  if b = Lines.newline then { c.endLine with lines := c.lines + 1 }
  else if b = 0x0D ∨ b = 0x0C then c.endLine
  else if b = 0x09 then { c.endWord with column := c.column + 8 - c.column % 8 }
  else if b = 0x20 then { c.endWord with column := c.column + 1 }
  else if b = 0x0B then c.endWord
  else if Quoting.isPrintable b then { c with isInWord := true, column := c.column + 1 }
  else c

/-- What is shown, in the order of the columns. -/
structure Shown where
  lines : Bool
  words : Bool
  characters : Bool
  bytes : Bool
  longest : Bool
  deriving DecidableEq, Repr

/-- What is shown, as a list. -/
def Shown.flags (s : Shown) : List Bool := [s.lines, s.words, s.characters, s.bytes, s.longest]

/-- Counts a piece of a text; only what is shown is looked for. -/
def Shown.count (s : Shown) (c : Counts) (bs : Bytes) : Counts :=
  let c := { c with bytes := c.bytes + bs.length }
  if s.words || s.longest then bs.foldl Counts.step c
  else if s.lines then { c with lines := c.lines + bs.count Lines.newline }
  else c

/-- The counts when the text has ended. -/
def Counts.finished (c : Counts) : Counts := { c.endLine with column := 0 }

/-- The counts of two texts together. -/
def Counts.add (a b : Counts) : Counts :=
  { lines := a.lines + b.lines, words := a.words + b.words, bytes := a.bytes + b.bytes
    longest := max a.longest b.longest }

/-- The line that shows counts. -/
def Shown.line (s : Shown) (width : Nat) (c : Counts) (name : Option Bytes) : Bytes :=
  let columns := (s.flags.zip [c.lines, c.words, c.bytes, c.bytes, c.longest]).filter (·.1)
  let shownName (n : Bytes) : Bytes := if n.contains Lines.newline then Quoting.ifNeeded n else n
  [0x20].intercalate (columns.map (fun column => Numeral.padded width column.2) ++ (name.map shownName).toList)

/-- What options ask for: lines, words and bytes, if they do not say. -/
def shownBy (o : Options) : Shown :=
  let s : Shown :=
    ⟨o.has "lines", o.has "words", o.has "chars", o.has "bytes", o.has "max-line-length"⟩
  if s.flags.contains true then s else ⟨true, true, false, true, false⟩

/-- How wide the columns are: as the size of all files needs, and wider if that is not known. -/
def width (s : Shown) (operands : List (Option Bytes)) : Job Nat := do
  if operands.length = 1 ∧ s.flags.count true = 1 then pure 1
  else
    let (least, total) ← operands.foldlM (fun ((least, total) : Nat × Nat) operand => do
      let status ← match operand with
        | none => Job.call (.examineStream Job.input)
        | some name =>
          if name = Job.dash then Job.call (.examineStream Job.input)
          else Job.call (.examine ⟨name⟩ true)
      pure <| match status with
        | .error _ => (least, total)
        | .ok status => if status.kind = .file then (least, total + status.size) else (7, total)) (1, 0)
    pure (max least (toString total).length)

/-- Counts what is left of a stream, and more bytes that are known of. -/
def countRest (s : Shown) (stream known : Nat) : Job (Counts × Option Errno) := do
  let (c, failure) ← Job.forChunks stream Job.chunkSize ({ bytes := known } : Counts) fun c chunk =>
    pure (s.count c chunk, true)
  pure (c.finished, failure)

/-- The sizes of files that are not looked into are no multiples of this. -/
def pageSize : Nat := 4096

/-- Counts a stream. Where only the bytes of a file count they are known from its size, and it is not read; but
the end of a file that fills pages is read, behind as much of it as may be passed over. -/
def countStream (s : Shown) (stream : Nat) : Job (Counts × Option Errno) := do
  let status : Except Errno EntryStatus ← Job.call (.examineStream stream)
  match status, s.lines || s.words || s.longest with
  | .ok status, false =>
    let place : Except Errno Nat ← Job.call (.seek stream .here 0)
    match status.kind, place with
    | .file, .ok place =>
      if status.size % pageSize ≠ 0 then pure ({ bytes := status.size - place }, none)
      else
        let passed := status.size - status.size % (pageSize + 1)
        if place < passed then
          let _ : Except Errno Nat ← Job.call (.seek stream .here passed)
          countRest s stream (passed - place)
        else countRest s stream 0
    | _, _ => countRest s stream 0
  | _, _ => countRest s stream 0

/-- Counts the lines, words and bytes of files. -/
def run : Job Nat := do
  let o ← Job.options "c|bytes m|chars l|lines w|words L|max-line-length"
  let s := shownBy o
  let operands := if o.operands = [] then [none] else o.operands.map some
  let width ← width s operands
  let (total, code) ← operands.foldlM (fun ((total, code) : Counts × Nat) operand => do
    let name := operand.getD Job.dash
    if name = [] then
      Job.complainText "invalid zero-length file name"
      pure (total, 1)
    else
      Job.withOperand name
        (fun e => do
          Job.complainOf (Quoting.ifNeeded name) e
          pure (total, 1))
        fun stream => do
          let (c, failure) ← countStream s stream
          match failure with
          | some e => Job.complainOf (Quoting.ifNeeded (operand.getD (Utf8.encode "standard input"))) e
          | none => pure ()
          Job.printLine (s.line width c operand)
          pure (total.add c, if failure.isSome then 1 else code)) (({} : Counts), 0)
  if 1 < operands.length then Job.printLine (s.line width total (some (Utf8.encode "total")))
  if operands.any fun operand => operand.getD Job.dash = Job.dash then
    match ← Job.call (.close Job.input) with
    | .ok () => pure code
    | .error e => Job.failOf Job.dash e
  else pure code

end LineShell.Machine.Counting
