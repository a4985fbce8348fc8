import LineShell.Machine.Printing.Numeral
import LineShell.Machine.Tools.Options
import LineShell.Machine.Tools.Quoting

/-!
Printing files one after the other: as they are, or with numbers in front of the lines, ends of lines marked,
and bytes that cannot be shown written with others.
-/

namespace LineShell.Machine.Cat

/-- How files are shown. -/
structure Style where
  numbers : Bool := false
  numbersFilled : Bool := false
  squeezes : Bool := false
  marksEnds : Bool := false
  marksTabs : Bool := false
  marksUnseen : Bool := false

/-- The files are shown as they are. -/
def Style.isPlain (s : Style) : Bool :=
  !(s.numbers || s.numbersFilled || s.squeezes || s.marksEnds || s.marksTabs || s.marksUnseen)

/-- How far the lines have been shown: whether the present one has begun, how many in a row were empty, and
the number of the last one that has one. -/
structure Progress where
  inside : Bool := false
  empty : Nat := 0
  number : Nat := 0

/-- A byte as it is shown where bytes that cannot be seen are marked. -/
def visible (b : UInt8) : Bytes :=
  let low (b : UInt8) : Bytes :=
    if b < 0x20 then [0x5E, b + 0x40] else if b = 0x7F then [0x5E, 0x3F] else [b]
  if b < 0x80 then low b else [0x4D, 0x2D] ++ low (b - 0x80)

/-- One byte of a line. -/
def Style.showByte (s : Style) (b : UInt8) : Bytes :=
  if b = 0x09 then (if s.marksTabs then [0x5E, 0x49] else [b])
  else if s.marksUnseen then visible b
  else [b]

/-- Shows a byte. -/
def Style.step (s : Style) (p : Progress) (b : UInt8) : Bytes × Progress :=
  let numberNow (wanted : Bool) : Bytes × Nat :=
    if wanted then (Numeral.padded 6 (p.number + 1) ++ [0x09], p.number + 1) else ([], p.number)
  let stop : Bytes := (if s.marksEnds then [0x24] else []) ++ [Lines.newline]
  if b = Lines.newline then
    if p.inside then (stop, { p with inside := false, empty := 0 })
    else if s.squeezes ∧ 1 ≤ p.empty then ([], { p with empty := 2 })
    else
      let (front, number) := numberNow (s.numbers && !s.numbersFilled)
      (front ++ stop, { inside := false, empty := p.empty + 1, number })
  else
    let (front, number) := numberNow (!p.inside && (s.numbers || s.numbersFilled))
    (front ++ s.showByte b, { inside := true, empty := 0, number })

/-- Shows bytes. -/
def Style.apply (s : Style) (p : Progress) (bs : Bytes) : Bytes × Progress :=
  let (out, p) := bs.foldl (fun (out, p) b =>
    let (shown, p) := s.step p b
    (shown.reverse ++ out, p)) (([] : Bytes), p)
  (out.reverse, p)

/-- How much is read at a time. -/
def chunkSize : Nat := 131072

/-- The style that options ask for. -/
def styleOf (o : Options) : Style :=
  let all := o.has "show-all"
  { numbers := o.has "number"
    numbersFilled := o.has "number-nonblank"
    squeezes := o.has "squeeze-blank"
    marksEnds := all || o.has "show-ends" || o.has "e"
    marksTabs := all || o.has "show-tabs" || o.has "t"
    marksUnseen := all || o.has "show-nonprinting" || o.has "e" || o.has "t" }

/-- Writing fails, and with it the program. -/
def failToWrite {α : Type} (e : Errno) : Job α := Job.failOf (Utf8.encode "write error") e

/-- Shows one stream. -/
def showStream (s : Style) (p : Progress) (stream : Nat) : Job (Progress × Option Errno) :=
  Job.forChunks stream chunkSize p fun p chunk => do
    let (out, p) := if s.isPlain then (chunk, p) else s.apply p chunk
    match ← Job.writeTo Job.output out with
    | .ok () => pure (p, true)
    | .error e => failToWrite e

/-- The stream is the file that is written to, and has something left to read. -/
def isOutput (stream : Nat) : Job Bool := do
  match ← Job.call (.examineStream Job.output), ← Job.call (.examineStream stream) with
  | .ok out, .ok source =>
    if out.kind = .file ∧ out.identity = source.identity then
      match ← Job.call (.seek stream .here 0) with
      | .ok place => pure (place < source.size)
      | .error _ => pure false
    else pure false
  | _, _ => pure false

/-- Prints files one after the other. -/
def run : Job Nat := do
  let o ← Job.options "A|show-all b|number-nonblank e E|show-ends n|number s|squeeze-blank t T|show-tabs u v|show-nonprinting"
  let style := styleOf o
  let operands := if o.operands = [] then [Job.dash] else o.operands
  let (_, code) ← operands.foldlM (fun (p, code) operand =>
    let shown := Quoting.ifNeeded operand
    Job.withOperand operand
      (fun e => do
        Job.complainOf shown e
        pure (p, 1))
      fun stream => do
        if ← isOutput stream then
          Job.complain (shown ++ Utf8.encode ": input file is output file")
          pure (p, 1)
        else
          match ← showStream style p stream with
          | (p, none) => pure (p, code)
          | (p, some e) =>
            Job.complainOf shown e
            pure (p, 1)) (({} : Progress), 0)
  if operands.contains Job.dash then
    match ← Job.call (.close Job.input) with
    | .ok () => pure code
    | .error e => Job.failOf (Utf8.encode "closing standard input") e
  else pure code

end LineShell.Machine.Cat
