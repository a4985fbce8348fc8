import LineShell.Machine.Printing.Numeral
import LineShell.Machine.Tools.Options

/-!
Printing the arguments on one line, and printing a line again and again.
-/

namespace LineShell.Machine.Echo

/-- The byte that a letter behind a backslash stands for. -/
def letter? (b : UInt8) : Option UInt8 :=
  [(0x61, 7), (0x62, 8), (0x65, 27), (0x66, 12), (0x6E, 10), (0x72, 13), (0x74, 9), (0x76, 11),
    (0x5C, 0x5C)].lookup b

/-- Reads up to so many digits in a base, of which there must be one. -/
def number? (base most : Nat) (bs : Bytes) : Option (UInt8 × Bytes) :=
  match (bs.take most).takeWhile fun b => Numeral.digitValue b < base with
  | [] => none
  | ds => some (UInt8.ofNat (Numeral.valueOf base ds), bs.drop ds.length)

/-- Replaces what stands behind backslashes; one such sequence stops all printing. Every step uses up at least
one byte. -/
def unescape : Nat → Bytes → Bytes → Bytes × Bool
  | 0, done, _ => (done.reverse, false)
  | _, done, [] => (done.reverse, false)
  | n + 1, done, 0x5C :: b :: rest =>
    match letter? b with
    | some c => unescape n (c :: done) rest
    | none =>
      if b = 0x63 then (done.reverse, true)
      else if b = 0x78 then
        match number? 16 2 rest with
        | some (c, rest) => unescape n (c :: done) rest
        | none => unescape n (b :: 0x5C :: done) rest
      else if b = 0x30 then
        let (c, rest) := (number? 8 3 rest).getD (0, rest)
        unescape n (c :: done) rest
      else
        match number? 8 3 (b :: rest) with
        | some (c, rest) => unescape n (c :: done) rest
        | none => unescape n (b :: 0x5C :: done) rest
  | n + 1, done, b :: rest => unescape n (b :: done) rest

/-- How the arguments are printed: without a newline, and with what stands behind backslashes replaced. -/
structure Style where
  isOpen : Bool := false
  unescapes : Bool := false

/-- Reads the options, which only count as such in front. -/
def style : Style → List Bytes → Style × List Bytes
  | s, (0x2D :: b :: bs) :: rest =>
    if (b :: bs).all fun b => b == 0x6E || b == 0x65 || b == 0x45 then
      style ((b :: bs).foldl (fun (s : Style) (b : UInt8) =>
        if b = 0x6E then { s with isOpen := true } else { s with unescapes := b == 0x65 }) s) rest
    else (s, (0x2D :: b :: bs) :: rest)
  | s, args => (s, args)

/-- The text that arguments make with blanks between them. -/
def Style.text (s : Style) : List Bytes → Bytes
  | [] => if s.isOpen then [] else [Lines.newline]
  | a :: more =>
    let (text, isStopped) := if s.unescapes then unescape a.length [] a else (a, false)
    if isStopped then text
    else if more = [] then text ++ (if s.isOpen then [] else [Lines.newline])
    else text ++ 0x20 :: s.text more

/-- Prints the arguments. -/
def run : Job Nat := do
  match ← Job.args with
  | [word] =>
    if word = Utf8.encode "--help" ∨ word = Utf8.encode "--version" then pure 0
    else
      let (s, args) := style {} [word]
      Job.print (s.text args)
      pure 0
  | args => do
    let (s, args) := style {} args
    Job.print (s.text args)
    pure 0

/-- How much is written at a time by a program that goes on and on. -/
def pieceSize : Nat := 8192

/-- Prints a line again and again, until it cannot be written any more. -/
def repeatLine : Job Nat := do
  let o ← Job.options ""
  let line := (if o.operands = [] then [0x79] else ([0x20] : Bytes).intercalate o.operands) ++ [Lines.newline]
  let piece := (List.replicate (max 1 (pieceSize / line.length)) line).flatten
  Job.loop () fun () => do
    match ← Job.writeTo Job.output piece with
    | .ok () => pure (.inl ())
    | .error e => do
      Job.complainOf (Utf8.encode "standard output") e
      pure (.inr 1)

end LineShell.Machine.Echo
