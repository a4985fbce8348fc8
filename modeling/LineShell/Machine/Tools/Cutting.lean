import LineShell.Machine.Printing.Numeral
import LineShell.Machine.Tools.Options
import LineShell.Machine.Tools.Quoting

/-!
Printing chosen bytes or fields of each line. The choice is a list of numbers and ranges.
-/

namespace LineShell.Machine.Cutting

/-- A range of positions, counted from one. Without an end it goes on to the end of the line. -/
structure Range where
  first : Nat
  last : Option Nat
  deriving DecidableEq, Repr

/-- The position is in the range. -/
def Range.contains (r : Range) (n : Nat) : Bool := r.first ≤ n && r.last.all (n ≤ ·)

/-- Why a list cannot be read. -/
inductive RangeFault where
  | twoDashes
  | zero
  | noEnd
  | decreasing
  | tooLarge (digits : Bytes)
  | malformed (text : Bytes)
  deriving DecidableEq, Repr

/-- The complaint about a list of positions or, `ofFields`, of fields. -/
def RangeFault.message (ofFields : Bool) : RangeFault → Bytes
  | .twoDashes => Utf8.encode (if ofFields then "invalid field range" else "invalid byte or character range")
  | .zero => Utf8.encode
    (if ofFields then "fields are numbered from 1" else "byte/character positions are numbered from 1")
  | .noEnd => Utf8.encode "invalid range with no endpoint: -"
  | .decreasing => Utf8.encode "invalid decreasing range"
  | .tooLarge digits =>
    Utf8.encode (if ofFields then "field number " else "byte/character offset ") ++ Quoting.plain digits ++
      Utf8.encode " is too large"
  | .malformed text =>
    Utf8.encode (if ofFields then "invalid field value " else "invalid byte/character position ") ++
      Quoting.plain text

/-- What has been read of one element of a list: the number before a dash, the dash, and the number that is
being read. -/
structure Element where
  hasFirst : Bool := false
  hasLast : Bool := false
  hasDash : Bool := false
  first : Nat := 1
  value : Nat := 0

/-- The range that an element means. -/
def Element.range (e : Element) : Except RangeFault Range :=
  if !e.hasDash then (if e.value = 0 then .error .zero else .ok ⟨e.value, some e.value⟩)
  else if !e.hasFirst && !e.hasLast then .error .noEnd
  else if !e.hasLast then .ok ⟨e.first, none⟩
  else if e.value < e.first then .error .decreasing
  else .ok ⟨e.first, some e.value⟩

/-- The greatest position. -/
def greatest : Nat := Nat.pow 2 64 - 2

/-- Elements end here. -/
def isSeparator (b : UInt8) : Bool := b == 0x2C || b == 0x20 || b == 0x09

/-- Reads a list. `digits` is the number that is being read, with what follows it. -/
def read (e : Element) (digits : Bytes) : Bytes → Except RangeFault (List Range)
  | [] => do pure [← e.range]
  | b :: bs =>
    if b = 0x2D then
      if e.hasDash then .error .twoDashes
      else if e.hasFirst ∧ e.value = 0 then .error .zero
      else
        read { e with hasDash := true, first := if e.hasFirst then e.value else 1, value := 0 } [] bs
    else if isSeparator b then do
      let range ← e.range
      pure (range :: (← read {} [] bs))
    else if Numeral.isDigit b then
      let value := e.value * 10 + Numeral.digitValue b
      let digits := if digits = [] then b :: bs else digits
      if greatest < value then .error (.tooLarge (digits.takeWhile Numeral.isDigit))
      else
        let e := if e.hasDash then { e with hasLast := true } else { e with hasFirst := true }
        read { e with value } digits bs
    else .error (.malformed (b :: bs))

/-- Ranges in order, those that overlap made one. -/
def merge (rs : List Range) : List Range :=
  let sorted := rs.mergeSort fun a b => a.first ≤ b.first
  (sorted.foldl (fun (done : List Range) r =>
    match done with
    | [] => [r]
    | d :: ds =>
      match d.last, r.last with
      | none, _ => d :: ds
      | some last, none => if r.first ≤ last then ⟨d.first, none⟩ :: ds else r :: d :: ds
      | some last, some end_ =>
        if r.first ≤ last then ⟨d.first, some (max last end_)⟩ :: ds else r :: d :: ds) []).reverse

/-- The positions from one on that are in none of the ranges, which are in order. -/
def complement (start : Nat) : List Range → List Range
  | [] => [⟨start, none⟩]
  | r :: rs =>
    let before : List Range := if start < r.first then [⟨start, some (r.first - 1)⟩] else []
    match r.last with
    | none => before
    | some last => before ++ complement (last + 1) rs

/-- What is printed of each line. -/
structure Style where
  ranges : List Range
  ofFields : Bool
  delimiter : UInt8
  separator : Option Bytes
  suppresses : Bool
  lineEnd : UInt8

/-- The position is chosen. -/
def Style.chooses (s : Style) (n : Nat) : Bool := s.ranges.any (·.contains n)

/-- The chosen bytes of a line; a separator stands before each range but the first that is there. -/
def Style.chosenBytes (s : Style) (line : Bytes) : Bytes :=
  match s.separator with
  | none => (line.zipIdx 1).filterMap fun (b, i) => if s.chooses i then some b else none
  | some separator =>
    let (out, _) := (line.zipIdx 1).foldl (fun ((out, isFirst) : List Bytes × Bool) (b, i) =>
      if !s.chooses i then (out, isFirst)
      else if !isFirst ∧ s.ranges.any (·.first == i) then ([b] :: separator :: out, false)
      else ([b] :: out, false)) (([] : List Bytes), true)
    out.reverse.flatten

/-- The fields of a line. -/
def fields (delimiter : UInt8) (line : Bytes) : List Bytes :=
  let (done, current) := line.foldr (fun b ((done, current) : List Bytes × Bytes) =>
    if b = delimiter then (current :: done, []) else (done, b :: current)) ([], [])
  current :: done

/-- The chosen ones of some fields. -/
def Style.chosenFields (s : Style) (fields : List Bytes) : Bytes :=
  (s.separator.getD [s.delimiter]).intercalate
    ((fields.zipIdx 1).filterMap fun (field, i) => if s.chooses i then some field else none)

/-- What is printed of a line. -/
def Style.show (s : Style) (line : Bytes) : Bytes :=
  if !s.ofFields then s.chosenBytes line ++ [s.lineEnd]
  else
    match fields s.delimiter line with
    | [_] => if s.suppresses then [] else line ++ [s.lineEnd]
    | fields => s.chosenFields fields ++ [s.lineEnd]

/-- Shows one stream. Where fields are lines, the whole stream is one line. -/
def Style.showStream (s : Style) (stream : Nat) : Job (Option Errno) := do
  if s.ofFields ∧ s.delimiter = s.lineEnd then
    match ← Job.readAll stream with
    | .error e => pure (some e)
    | .ok bytes =>
      let isComplete := bytes.getLast? = some s.lineEnd
      let fields := fields s.delimiter (if isComplete then bytes.dropLast else bytes)
      if bytes ≠ [] ∧ !(s.suppresses ∧ !isComplete ∧ fields.length = 1) then
        Job.print (s.chosenFields fields ++ [s.lineEnd])
      pure none
  else
    let (_, failure) ← Job.forLineGroups stream s.lineEnd () fun () lines => do
      Job.print (lines.map fun l => s.show l.bytes).flatten
      pure ((), true)
    pure failure

/-- What the options ask for. -/
def styleBy (o : Options) : Job Style := do
  let refuse (message : String) : Job Style := Job.refuse (Utf8.encode message)
  let lists := o.given.filter fun g => ["bytes", "characters", "fields"].contains g.1
  let delimiter := o.value? "delimiter"
  match lists with
  | [] =>
    if delimiter.any (1 < ·.length) then refuse "the delimiter must be a single character"
    else refuse "you must specify a list of bytes, characters, or fields"
  | _ :: _ :: _ => refuse "only one list may be specified"
  | [(key, list)] =>
    let ofFields := key == "fields"
    if delimiter.any (1 < ·.length) then refuse "the delimiter must be a single character"
    else if !ofFields && delimiter.isSome then
      refuse "an input delimiter may be specified only when operating on fields"
    else if !ofFields && o.has "only-delimited" then
      refuse "suppressing non-delimited lines makes sense\n\tonly when operating on fields"
    else
      match read {} [] (list.getD []) with
      | .error e => Job.refuse (e.message ofFields)
      | .ok ranges =>
        let ranges := merge ranges
        pure {
          ranges := if o.has "complement" then complement 1 ranges else ranges
          ofFields
          delimiter := match delimiter with
            | none => 0x09
            | some d => d.headD 0
          separator := (o.value? "output-delimiter").map fun d => if d = [] then [0] else d
          suppresses := o.has "only-delimited"
          lineEnd := if o.has "zero-terminated" then 0 else Lines.newline }

/-- Prints chosen parts of the lines of files. -/
def run : Job Nat := do
  let o ← Job.options
    "b|bytes= c|characters= d|delimiter= f|fields= n s|only-delimited z|zero-terminated output-delimiter= complement"
  let style ← styleBy o
  let operands := if o.operands = [] then [Job.dash] else o.operands
  let code ← Job.forEach operands fun operand => do
    let complain (e : Errno) : Job Nat := do
      Job.complainOf (Quoting.ifNeeded operand) e
      pure 1
    Job.withOperand operand complain fun stream => do
      match ← style.showStream stream with
      | none => pure 0
      | some e => complain e
  if operands.contains Job.dash then
    match ← Job.call (.close Job.input) with
    | .ok () => pure code
    | .error e =>
      Job.complainOf Job.dash e
      pure 1
  else pure code

end LineShell.Machine.Cutting
