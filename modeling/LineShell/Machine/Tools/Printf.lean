import LineShell.Machine.Printing.Directive
import LineShell.Machine.Tools.Echo
import LineShell.Machine.Tools.Quoting

/-!
Printing arguments by a format, which is used again as long as there are arguments.
-/

namespace LineShell.Machine.Printf

/-- How far printing has come. -/
structure Progress where
  args : List Bytes
  code : Nat := 0
  isStopped : Bool := false

/-- Printing by a format. -/
abbrev Printing := StateT Progress Job

/-- Prints bytes. -/
def emit (bytes : Bytes) : Printing Unit := Job.print bytes

/-- The next argument; none if there are no more. -/
def next : Printing (Option Bytes) := do
  let p ← get
  match p.args with
  | [] => pure none
  | a :: more =>
    set { p with args := more }
    pure (some a)

/-- Complains about an argument. -/
def warn (message : Bytes) : Printing Unit := do
  Job.complain message
  modify fun p => { p with code := 1 }

/-- Complains if an argument was not used up, or is too large. -/
def check (a rest : Bytes) (isTooLarge : Bool) : Printing Unit := do
  if isTooLarge then warn (Quoting.plain a ++ Job.because ⟨34⟩)
  else if rest ≠ [] then
    warn (Quoting.plain a ++ Utf8.encode (if rest = a then ": expected a numeric value"
      else ": value not completely converted"))

/-- The byte that a quoted argument is; what follows it is complained about. -/
def quoted? (a : Bytes) : Printing (Option UInt8) := do
  match a with
  | q :: b :: rest =>
    if q = 0x22 ∨ q = 0x27 then
      if rest ≠ [] then
        Job.complain (Utf8.encode "warning: " ++ rest ++
          Utf8.encode ": character(s) following character constant have been ignored")
      pure (some b)
    else pure none
  | _ => pure none

/-- An argument as a number that a function reads. -/
def numberOf {α : Type} (ofByte : UInt8 → α) (zero : α) (read : Bytes → Option (α × Bytes × Bool)) (a : Bytes) :
    Printing α := do
  match ← quoted? a with
  | some b => pure (ofByte b)
  | none =>
    match read a with
    | none => do
      check a a false
      pure zero
    | some (value, rest, isTooLarge) => do
      check a rest isTooLarge
      pure value

/-- An argument as a number with a sign. -/
def signedOf (a : Bytes) : Printing Int :=
  numberOf (fun b => (b.toNat : Int)) 0 (fun a => (Numeral.read? a).map fun n => (n.clamped, n.rest, n.isTooLarge)) a

/-- An argument as a number without a sign. -/
def unsignedOf (a : Bytes) : Printing Nat :=
  numberOf UInt8.toNat 0
    (fun a => (Numeral.read? a).map fun n => (n.unsigned, n.rest, n.isTooLargeUnsigned)) a

/-- An argument as a number with a fraction. -/
def floatingOf (a : Bytes) : Printing Floating :=
  numberOf (fun b => Floating.ofFraction Floating.extended false b.toNat 1) (.finite false 0 0)
    (fun a => (Floating.read? Floating.extended a).map fun (x, rest) =>
      let isWord := a.any fun b => b == 0x69 || b == 0x49
      (x, rest, match x with
        | .infinite _ => !isWord
        | _ => false)) a

/-- What the conversions of a format have in common with flags and precision: those that are not for all. -/
def isAllowed (flags : Bytes) (hasPrecision : Bool) (conversion : Char) : Bool :=
  "cdiosuxXaAeEfFgG".toList.contains conversion &&
    !(flags.contains 0x23 && "cdisu".toList.contains conversion) &&
    !(flags.contains 0x30 && "cs".toList.contains conversion) &&
    !(flags.contains 0x27 && !"dfgiuFG".toList.contains conversion) &&
    !(hasPrecision && conversion == 'c')

/-- Prints one argument by a directive. -/
def convert (d : Directive) (conversion : Char) : Printing Unit := do
  let argument ← next
  let a := argument.getD []
  let signed : Printing Int := if argument.isNone then pure 0 else signedOf a
  let unsigned : Printing Nat := if argument.isNone then pure 0 else unsignedOf a
  let floating : Printing Floating := if argument.isNone then pure (.finite false 0 0) else floatingOf a
  let show_ (style : FloatStyle) (isUpper : Bool) : Printing Unit := do
    emit (d.floating Floating.extended style isUpper (← floating))
  match conversion with
  | 'c' => emit (d.fill false [] [a.headD 0])
  | 's' => emit (d.text a)
  | 'd' | 'i' => emit (d.signed (← signed))
  | 'o' => emit (d.unsigned .octal (← unsigned))
  | 'u' => emit (d.unsigned .decimal (← unsigned))
  | 'x' => emit (d.unsigned (.hexadecimal false) (← unsigned))
  | 'X' => emit (d.unsigned (.hexadecimal true) (← unsigned))
  | 'a' => show_ .hexadecimal false
  | 'A' => show_ .hexadecimal true
  | 'e' => show_ .scientific false
  | 'E' => show_ .scientific true
  | 'f' => show_ .fixed false
  | 'F' => show_ .fixed true
  | 'g' => show_ .general false
  | _ => show_ .general true

/-- The bytes of a character by its number. -/
def codePoint (n : Nat) : Bytes := Utf8.encode (String.ofList [Char.ofNat n])

/-- Reads what stands behind a backslash: the bytes, what is left, and whether all printing stops.
`isArgument` says that it stands in an argument. -/
def escape (isArgument : Bool) (bs : Bytes) : Except String (Bytes × Bytes × Bool) :=
  match bs with
  | [] => .ok ([0x5C], [], false)
  | b :: rest =>
    if b = 0x78 then
      match Echo.number? 16 2 rest with
      | some (c, rest) => .ok ([c], rest, false)
      | none => .error "missing hexadecimal number in escape"
    else if Numeral.digitValue b < 8 then
      let digits := if isArgument ∧ b = 0x30 then rest else bs
      let (c, rest) := (Echo.number? 8 3 digits).getD (0, digits)
      .ok ([c], rest, false)
    else if b = 0x75 ∨ b = 0x55 then
      let count := if b = 0x75 then 4 else 8
      let ds := (rest.take count).takeWhile fun b => Numeral.digitValue b < 16
      if ds.length < count then .error "missing hexadecimal number in escape"
      else .ok (codePoint (Numeral.valueOf 16 ds), rest.drop count, false)
    else if b = 0x63 then .ok ([], rest, true)
    else if b = 0x22 then .ok ([b], rest, false)
    else
      match Echo.letter? b with
      | some c => .ok ([c], rest, false)
      | none => .ok ([0x5C, b], rest, false)

/-- Stops all printing. -/
def stop : Printing Unit := modify fun p => { p with isStopped := true }

/-- Prints an argument with what stands behind backslashes replaced. Every step uses up at least one byte. -/
def emitEscaped : Nat → Bytes → Printing Unit
  | 0, _ => pure ()
  | _, [] => pure ()
  | n + 1, 0x5C :: rest => do
    match escape true rest with
    | .error message => Job.fail (Utf8.encode message)
    | .ok (bytes, rest, isLast) => do
      emit bytes
      if isLast then stop else emitEscaped n rest
  | n + 1, b :: rest => do
    emit [b]
    emitEscaped n rest

/-- The flags of a directive. -/
def isFlag (b : UInt8) : Bool := (Utf8.encode "-+ #0'I").contains b

/-- The letters that say how large a number is. -/
def isSize (b : UInt8) : Bool := (Utf8.encode "lLhjtz").contains b

/-- A width or precision that an argument gives. -/
def measure (what : String) : Printing (Option Int) := do
  match ← next with
  | none => pure none
  | some a => do
    let n ← signedOf a
    if n < -(Int.pow 2 31) ∨ Int.pow 2 31 ≤ n then Job.fail (Utf8.encode ("invalid " ++ what ++ ": ") ++ Quoting.plain a)
    else pure (some n)

/-- Prints by a format, once. Every step uses up at least one byte. -/
def once : Nat → Bytes → Printing Unit
  | 0, _ => pure ()
  | _, [] => pure ()
  | n + 1, 0x5C :: rest => do
    match escape false rest with
    | .error message => Job.fail (Utf8.encode message)
    | .ok (bytes, rest, isLast) => do
      emit bytes
      if isLast then stop else once n rest
  | n + 1, 0x25 :: 0x25 :: rest => do
    emit [0x25]
    once n rest
  | n + 1, 0x25 :: 0x62 :: rest => do
    let a := (← next).getD []
    emitEscaped a.length a
    if !(← get).isStopped then once n rest
  | n + 1, 0x25 :: 0x71 :: rest => do
    match ← next with
    | none => pure ()
    | some a => emit (Quoting.ifNeeded a)
    once n rest
  | n + 1, 0x25 :: rest => do
    let flags := rest.takeWhile isFlag
    let d : Directive := flags.foldl (fun d b => (d.withFlag? b).getD d) {}
    let after := rest.drop flags.length
    let (d, after) ← match after with
      | 0x2A :: after => do pure (d.withWidth ((← measure "field width").getD 0), after)
      | after =>
        let count := after.takeWhile Numeral.isDigit
        pure ({ d with width := Numeral.valueOf 10 count }, after.drop count.length)
    let (d, after, hasPrecision) ← match after with
      | 0x2E :: 0x2A :: after => do pure (d.withPrecision ((← measure "precision").getD 0), after, true)
      | 0x2E :: after =>
        let count := after.takeWhile Numeral.isDigit
        pure ({ d with precision := some (Numeral.valueOf 10 count) }, after.drop count.length, true)
      | after => pure (d, after, false)
    let after := after.dropWhile isSize
    let conversion := Char.ofNat (after.headD 0).toNat
    let left := after.drop 1
    if isAllowed flags hasPrecision conversion then
      convert d conversion
      once n left
    else
      Job.fail (0x25 :: rest.take (rest.length - left.length) ++
        Utf8.encode ": invalid conversion specification")
  | n + 1, b :: rest => do
    emit [b]
    once n rest

/-- Prints by a format as long as there are arguments and it uses them. -/
def rounds (format : Bytes) : Nat → Printing Unit
  | 0 => pure ()
  | n + 1 => do
    let before := (← get).args.length
    once format.length format
    let p ← get
    if !p.isStopped ∧ p.args ≠ [] then
      if p.args.length < before then rounds format n
      else
        Job.complain (Utf8.encode "warning: ignoring excess arguments, starting with " ++
          Quoting.plain (p.args.headD []))

/-- Prints arguments by a format. -/
def run : Job Nat := do
  let args ← Job.args
  let operands ← match args with
    | [0x2D, 0x2D] :: rest => pure rest
    | [word] =>
      if word = Utf8.encode "--help" ∨ word = Utf8.encode "--version" then Job.exit 0 else pure args
    | args => pure args
  match operands with
  | [] => Job.refuse (Utf8.encode "missing operand")
  | format :: args => do
    let ((), p) ← (rounds format (args.length + 1)).run { args }
    pure p.code

end LineShell.Machine.Printf
