import LineShell.Machine.Printing.Directive
import LineShell.Machine.Printing.Numeral
import LineShell.Machine.Script.Shell

/-!
The commands of a shell that print their arguments, as they are or by a format.
-/

namespace LineShell.Machine.Script

namespace Output

/-- The byte that a letter behind a backslash stands for. -/
def letter? (b : UInt8) : Option UInt8 :=
  [(0x5C, 0x5C), (0x61, 7), (0x62, 8), (0x65, 27), (0x66, 12), (0x6E, 10), (0x72, 13), (0x74, 9), (0x76, 11)].lookup b

/-- Reads up to so many octal digits. -/
def octal (most : Nat) (bs : Bytes) : UInt8 × Bytes :=
  let ds := (bs.take most).takeWhile fun b => Numeral.digitValue b < 8
  (UInt8.ofNat (Numeral.valueOf 8 ds), bs.drop ds.length)

/-- Reads what stands behind a backslash in a format. One that means nothing stands for itself. -/
def escape (bs : Bytes) : UInt8 × Bytes :=
  match bs with
  | [] => (0x5C, [])
  | b :: rest =>
    match letter? b with
    | some c => (c, rest)
    | none => if Numeral.digitValue b < 8 then octal 3 bs else (0x5C, bs)

/-- Replaces what stands behind backslashes in an argument; one of these sequences stops all printing. Every
step uses up at least one byte. -/
def unescape : Nat → Bytes → Bytes → Bytes × Bool
  | 0, done, _ => (done.reverse, false)
  | _, done, [] => (done.reverse, false)
  | _, done, 0x5C :: 0x63 :: _ => (done.reverse, true)
  | n + 1, done, 0x5C :: 0x30 :: rest =>
    let (b, rest) := octal 3 rest
    unescape n (b :: done) rest
  | n + 1, done, 0x5C :: rest =>
    let (b, rest) := escape rest
    unescape n (b :: done) rest
  | n + 1, done, b :: rest => unescape n (b :: done) rest

/-- What an argument means that may hold sequences behind backslashes. -/
def meaning (bs : Bytes) : Bytes × Bool := unescape bs.length [] bs

/-- The text that arguments make with blanks between them. -/
def joined : List Bytes → Bool → Bytes
  | [], isOpen => if isOpen then [] else [Lines.newline]
  | a :: more, isOpen =>
    let (text, isStopped) := meaning a
    if isStopped then text
    else if more = [] then text ++ (if isOpen then [] else [Lines.newline])
    else text ++ 0x20 :: joined more isOpen

/-- Prints the arguments. -/
def echo (args : List Bytes) : Sh Nat := do
  match args with
  | [0x2D, 0x6E] :: rest => Sh.print (joined rest true)
  | args => Sh.print (joined args false)
  pure 0

/-! ### Formats -/

/-- How far printing by a format has come. -/
structure Progress where
  args : List Bytes
  code : Nat := 0
  isStopped : Bool := false

/-- Printing by a format. -/
abbrev Printing := StateT Progress Sh

namespace Printing

/-- Prints bytes. -/
def emit (bytes : Bytes) : Printing Unit := Sh.print bytes

/-- The next argument; none if there are no more. -/
def next : Printing (Option Bytes) := do
  let p ← get
  match p.args with
  | [] => pure none
  | a :: more =>
    set { p with args := more }
    pure (some a)

/-- Complains about an argument. -/
def warn (a : Bytes) (message : String) : Printing Unit := do
  Sh.complain (a ++ Utf8.encode (": " ++ message))
  modify fun p => { p with code := 1 }

/-- Complains if an argument was not used up, or is too large. -/
def check (a rest : Bytes) (isTooLarge : Bool) : Printing Unit := do
  if rest ≠ [] then
    warn a (if rest = a then "expected numeric value" else "not completely converted")
  else if isTooLarge then warn a (Errno.text ⟨34⟩)

/-- The byte that a quoted argument is. -/
def quoted? (a : Bytes) : Option UInt8 :=
  match a with
  | b :: rest => if b = 0x22 ∨ b = 0x27 then some (rest.headD 0) else none
  | [] => none

/-- The next argument as a number with a sign. -/
def nextSigned : Printing Int := do
  match ← next with
  | none => pure 0
  | some a =>
    match quoted? a with
    | some b => pure b.toNat
    | none =>
      match Numeral.read? a with
      | none => do
        check a a false
        pure 0
      | some n => do
        check a n.rest n.isTooLarge
        pure n.clamped

/-- The next argument as a number without a sign. -/
def nextUnsigned : Printing Nat := do
  match ← next with
  | none => pure 0
  | some a =>
    match quoted? a with
    | some b => pure b.toNat
    | none =>
      match Numeral.read? a with
      | none => do
        check a a false
        pure 0
      | some n => do
        check a n.rest n.isTooLargeUnsigned
        pure n.unsigned

/-- The next argument as a number with a fraction. -/
def nextFloating : Printing Floating := do
  match ← next with
  | none => pure (.finite false 0 0)
  | some a =>
    match quoted? a with
    | some b => pure (Floating.ofFraction Floating.double false b.toNat 1)
    | none =>
      match Floating.read? Floating.double a with
      | none => do
        check a a false
        pure (.finite false 0 0)
      | some (x, rest) => do
        let isWord := (a.any fun b => b == 0x69 || b == 0x49)
        check a rest (match x with
          | .infinite _ => !isWord
          | _ => false)
        pure x

/-- A number as 32 bits hold it. -/
def narrow (n : Int) : Int := Int.bmod n (Nat.pow 2 32)

/-- Prints one argument by a directive. -/
def convert (d : Directive) (conversion : UInt8) (shown : Bytes) : Printing Unit := do
  match Char.ofNat conversion.toNat with
  | 'b' =>
    let (text, isStopped) := meaning ((← next).getD [])
    emit (d.text text)
    if isStopped then modify fun p => { p with isStopped := true }
  | 'c' => emit (d.byte (((← next).getD []).headD 0))
  | 's' => emit (d.text ((← next).getD []))
  | 'd' | 'i' => emit (d.signed (← nextSigned))
  | 'o' => emit (d.unsigned .octal (← nextUnsigned))
  | 'u' => emit (d.unsigned .decimal (← nextUnsigned))
  | 'x' => emit (d.unsigned (.hexadecimal false) (← nextUnsigned))
  | 'X' => emit (d.unsigned (.hexadecimal true) (← nextUnsigned))
  | 'a' => emit (d.floating Floating.double .hexadecimal false (← nextFloating))
  | 'A' => emit (d.floating Floating.double .hexadecimal true (← nextFloating))
  | 'e' => emit (d.floating Floating.double .scientific false (← nextFloating))
  | 'E' => emit (d.floating Floating.double .scientific true (← nextFloating))
  | 'f' => emit (d.floating Floating.double .fixed false (← nextFloating))
  | 'F' => emit (d.floating Floating.double .fixed true (← nextFloating))
  | 'g' => emit (d.floating Floating.double .general false (← nextFloating))
  | 'G' => emit (d.floating Floating.double .general true (← nextFloating))
  | _ => Sh.fail (shown ++ Utf8.encode ": invalid directive")

/-- The bytes that may stand for a number in a directive. -/
def isCount (b : UInt8) : Bool := b == 0x2A || Numeral.isDigit b

/-- The number that such bytes make. -/
def countOf (bs : Bytes) : Nat := Numeral.valueOf 10 (bs.takeWhile Numeral.isDigit)

/-- Prints by a format, once. Every step uses up at least one byte. -/
def once : Nat → Bytes → Printing Unit
  | 0, _ => pure ()
  | _, [] => pure ()
  | n + 1, 0x5C :: rest => do
    let (b, rest) := escape rest
    emit [b]
    once n rest
  | n + 1, 0x25 :: 0x25 :: rest => do
    emit [0x25]
    once n rest
  | n + 1, 0x25 :: rest => do
    let flags := rest.takeWhile fun b => (({} : Directive).withFlag? b).isSome
    let d : Directive := flags.foldl (fun d b => (d.withFlag? b).getD d) {}
    let after := rest.drop flags.length
    let (d, after) ← match after with
      | 0x2A :: after => do pure (d.withWidth (narrow (← nextSigned)), after)
      | after =>
        let count := after.takeWhile isCount
        pure ({ d with width := countOf count }, after.drop count.length)
    let (d, after) ← match after with
      | 0x2E :: 0x2A :: after => do pure (d.withPrecision (narrow (← nextSigned)), after)
      | 0x2E :: after =>
        let count := after.takeWhile isCount
        pure ({ d with precision := some (countOf count) }, after.drop count.length)
      | after => pure (d, after)
    match after with
    | [] => Sh.failText "missing format character"
    | c :: after => do
      convert d c (0x25 :: rest.take (rest.length - after.length))
      if !(← get).isStopped then once n after
  | n + 1, b :: rest => do
    emit [b]
    once n rest

/-- Prints by a format as long as there are arguments. -/
def rounds (format : Bytes) : Nat → Printing Unit
  | 0 => pure ()
  | n + 1 => do
    let before := (← get).args.length
    once format.length format
    let p ← get
    if !p.isStopped ∧ p.args ≠ [] ∧ p.args.length < before then rounds format n

end Printing

/-- Prints the arguments behind the first one by this as a format. -/
def printf (args : List Bytes) : Sh Nat := do
  match args with
  | [] => Sh.failText "usage: printf format [arg ...]"
  | format :: args =>
    let ((), p) ← (Printing.rounds format (args.length + 1)).run { args }
    pure p.code

end Output
end LineShell.Machine.Script
