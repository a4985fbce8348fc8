import LineShell.Machine.Printing.Directive
import LineShell.Machine.Printing.Numeral
import LineShell.Machine.Tools.Options
import LineShell.Machine.Tools.Quoting

/-!
Printing the numbers from one to another. They are counted as multiples of the step, without rounding, and
shown with as many digits as the arguments have.
-/

namespace LineShell.Machine.Sequence

/-- A number as it was written: `value / 10 ^ places`, and how wide it is shown. An infinite one has no
value. -/
structure Operand where
  isNegative : Bool
  size : Option Nat
  places : Nat
  width : Nat
  isPlain : Bool
  deriving DecidableEq, Repr

/-- Reads an operand. An exponent moves the point. -/
def operand? (text : Bytes) : Option Operand :=
  let bs := text.dropWhile Numeral.isSpace
  let (isNegative, digits) := match bs with
    | 0x2D :: rest => (true, rest)
    | 0x2B :: rest => (false, rest)
    | rest => (false, rest)
  let lower := digits.map Floating.lower
  if lower = Utf8.encode "inf" ∨ lower = Utf8.encode "infinity" then
    some ⟨isNegative, none, 0, bs.length, false⟩
  else
    match Floating.pointed? 10 digits with
    | none => none
    | some (n, places, rest) =>
      match rest with
      | [] =>
        let shown := bs.length - (if bs.head? = some 0x2B then 1 else 0)
        let shown := if digits.head? = some 0x2E then shown + 1 else shown
        let shown := if digits.getLast? = some 0x2E then shown - 1 else shown
        some ⟨isNegative, some n, places, shown, places = 0 && digits.all Numeral.isDigit⟩
      | rest =>
        match Floating.exponent? [0x65, 0x45] rest with
        | some (e, []) =>
          if (places : Int) ≤ e then
            let size := n * Nat.pow 10 (e - places).toNat
            some ⟨isNegative, some size, 0, (toString size).length + (if isNegative then 1 else 0), false⟩
          else
            let p := ((places : Int) - e).toNat
            let whole := max 1 ((toString n).length - p)
            some ⟨isNegative, some n, p, whole + 1 + p + (if isNegative then 1 else 0), false⟩
        | _ =>
          match Floating.read? Floating.extended text with
          | some (.finite isNegative m e, []) =>
            if 0 ≤ e then
              let size := m * Nat.pow 2 e.toNat
              some ⟨isNegative, some size, 0, (toString size).length, false⟩
            else none
          | _ => none

/-- The operand with so many places, without its point. -/
def Operand.scaled (o : Operand) (places : Nat) : Int :=
  let size := (o.size.getD 0) * Nat.pow 10 (places - o.places)
  if o.isNegative then -size else size

/-- A number without its point as text. -/
def shown (places width : Nat) (n : Int) : Bytes :=
  let text := Floating.withPoint places false n.natAbs
  let sign : Bytes := if n < 0 then [0x2D] else []
  sign ++ List.replicate (width - (text.length + sign.length)) 0x30 ++ text

/-- Prints numbers with something between them and behind the last one. A block of them is made at a time. -/
def printAll (write : Int → Bytes) (separator ending : Bytes) (first step : Int) (last : Option Int) : Job Nat :=
  Job.loop (first, true) fun (value, isFirst) => do
    let isOver (n : Int) : Bool := match last with
      | none => false
      | some last => if 0 ≤ step then last < n else n < last
    let rec block : Nat → Int → List Bytes → List Bytes × Int × Bool
      | 0, n, done => (done, n, false)
      | k + 1, n, done => if isOver n then (done, n, true) else block k (n + step) (write n :: done)
    let (done, value', isLast) := block 512 value []
    let text := (done.reverse.map fun bytes => separator ++ bytes).flatten
    Job.print (if isFirst then text.drop separator.length else text)
    if isLast then
      if !isFirst ∨ done ≠ [] then Job.print ending
      pure (.inr 0)
    else
      match (← get).failure with
      | some _ => pure (.inr 0)
      | none => pure (.inl (value', false))

/-- A format with one directive in it: what stands before, the directive, and what stands behind. -/
structure Format where
  before : Bytes
  directive : Directive
  style : FloatStyle
  isUpper : Bool
  behind : Bytes

/-- Takes text up to a directive; two percent signs are one. -/
def literal : Bytes → Bytes × Bytes
  | 0x25 :: 0x25 :: rest =>
    let (text, rest) := literal rest
    (0x25 :: text, rest)
  | 0x25 :: rest => ([], 0x25 :: rest)
  | b :: rest =>
    let (text, rest) := literal rest
    (b :: text, rest)
  | [] => ([], [])

/-- Reads a format. -/
def format (text : Bytes) : Except Bytes Format :=
  let complain (message : String) : Except Bytes Format :=
    .error (Utf8.encode "format " ++ Quoting.plain text ++ Utf8.encode message)
  match literal text with
  | (_, []) => complain " has no % directive"
  | (before, _ :: rest) =>
    let flags := rest.takeWhile fun b => (Utf8.encode "-+#0 '").contains b
    let d : Directive := flags.foldl (fun d b => (d.withFlag? b).getD d) {}
    let rest := rest.drop flags.length
    let width := rest.takeWhile Numeral.isDigit
    let rest := rest.drop width.length
    let d := { d with width := Numeral.valueOf 10 width }
    let (d, rest) := match rest with
      | 0x2E :: rest =>
        let ds := rest.takeWhile Numeral.isDigit
        ({ d with precision := some (Numeral.valueOf 10 ds) }, rest.drop ds.length)
      | rest => (d, rest)
    let rest := if rest.head? = some 0x4C then rest.drop 1 else rest
    match rest with
    | [] => complain " ends in %"
    | c :: rest =>
      let style? : Option (FloatStyle × Bool) := match Char.ofNat c.toNat with
        | 'a' => some (.hexadecimal, false)
        | 'A' => some (.hexadecimal, true)
        | 'e' => some (.scientific, false)
        | 'E' => some (.scientific, true)
        | 'f' => some (.fixed, false)
        | 'F' => some (.fixed, true)
        | 'g' => some (.general, false)
        | 'G' => some (.general, true)
        | _ => none
      match style? with
      | none =>
        .error (Utf8.encode "format " ++ Quoting.plain text ++ Utf8.encode " has unknown %" ++ [c] ++
          Utf8.encode " directive")
      | some (style, isUpper) =>
        match literal rest with
        | (behind, []) => .ok ⟨before, d, style, isUpper, behind⟩
        | _ => complain " has too many % directives"

/-- Refuses an operand. -/
def refuseOperand {α : Type} (a : Bytes) : Job α :=
  Job.refuse (Utf8.encode "invalid floating point argument: " ++ Quoting.plain a)

/-- An operand that must be a number. -/
def operand (a : Bytes) : Job Operand := do
  let lower := (a.dropWhile fun b => b == 0x2D || b == 0x2B).map Floating.lower
  if lower = Utf8.encode "nan" then
    Job.refuse (Utf8.encode "invalid 'not-a-number' argument: " ++ Quoting.plain a)
  else
    match operand? a with
    | some o => pure o
    | none => refuseOperand a

/-- A number below zero is no option. -/
def splitArguments : List Bytes → List Bytes × List Bytes
  | [] => ([], [])
  | [0x2D, 0x2D] :: rest => ([], rest)
  | (0x2D :: b :: bs) :: rest =>
    if Numeral.isDigit b ∨ b = 0x2E then ([], (0x2D :: b :: bs) :: rest)
    else
      let takesNext := bs.isEmpty && (b == 0x73 || b == 0x66)
      match rest with
      | [] => ([0x2D :: b :: bs], [])
      | next :: more =>
        if takesNext then
          let (options, operands) := splitArguments more
          ((0x2D :: b :: bs) :: next :: options, operands)
        else
          let (options, operands) := splitArguments (next :: more)
          ((0x2D :: b :: bs) :: options, operands)
  | a :: rest => ([], a :: rest)

/-- Prints the numbers from one to another. -/
def run : Job Nat := do
  let (options, operands) := splitArguments (← Job.args)
  let o ← Job.optionsOf "f|format= s|separator= w|equal-width" false options
  let operands := o.operands ++ operands
  let separator := (o.value? "separator").getD [Lines.newline]
  match operands with
  | [] => Job.refuse (Utf8.encode "missing operand")
  | _ :: _ :: _ :: extra :: _ => Job.refuse (Utf8.encode "extra operand " ++ Quoting.plain extra)
  | operands =>
    let format? ← match o.value? "format" with
      | none => pure none
      | some text =>
        match format text with
        | .ok f => pure (some f)
        | .error message => Job.fail message
    if format?.isSome ∧ o.has "equal-width" then
      Job.refuse (Utf8.encode "format string may not be specified when printing equal width strings")
    let one : Operand := ⟨false, some 1, 0, 1, true⟩
    let (first, step, last) ← match operands with
      | [a] => do pure (one, one, ← operand a)
      | [a, b] => do
        let first ← operand a
        pure (first, one, ← operand b)
      | [a, b, c] => do
        let first ← operand a
        let step ← operand b
        if step.size = some 0 then
          Job.refuse (Utf8.encode "invalid Zero increment value: " ++ Quoting.plain b)
        pure (first, step, ← operand c)
      | _ => refuseOperand []
    let places := max first.places (max step.places last.places)
    let shownPlaces := max first.places step.places
    let start := first.scaled places
    let stride := step.scaled places
    let limit : Option Int :=
      if last.size.isSome then some (last.scaled places)
      else if last.isNegative == decide (stride < 0) then none
      else some (if stride < 0 then start + 1 else start - 1)
    let widthOf (o : Operand) : Nat :=
      if o.places = 0 ∧ shownPlaces ≠ 0 then o.width + 1 + shownPlaces
      else if o.places < shownPlaces then o.width + (shownPlaces - o.places)
      else if shownPlaces < o.places then
        o.width - (o.places - shownPlaces) - (if shownPlaces = 0 then 1 else 0)
      else o.width
    let width := if o.has "equal-width" then max (widthOf first) (widthOf last) else 0
    let write (n : Int) : Bytes := match format? with
      | some f =>
        let x := Floating.ofFraction Floating.extended (n < 0) n.natAbs (Nat.pow 10 places)
        f.before ++ f.directive.floating Floating.extended f.style f.isUpper x ++ f.behind
      | none => shown shownPlaces width (Int.tdiv n (Int.pow 10 (places - shownPlaces)))
    printAll write separator [Lines.newline] start stride limit

end LineShell.Machine.Sequence
