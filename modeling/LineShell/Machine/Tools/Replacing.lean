import LineShell.Machine.Printing.Numeral
import LineShell.Machine.Tools.Options
import LineShell.Machine.Tools.Quoting

/-!
Replacing bytes by others, taking some out, and keeping one of several equal ones. Which bytes are meant is
said by a text: bytes, ranges, named classes, and bytes that are repeated.
-/

namespace LineShell.Machine.Replacing

/-- A byte of a text, and whether a backslash stood before it. -/
structure Sign where
  byte : UInt8
  isEscaped : Bool := false
  deriving DecidableEq, Repr

/-- The sign is this byte, without a backslash. -/
def Sign.is (s : Sign) (b : UInt8) : Bool := s.byte == b && !s.isEscaped

/-- The byte that a letter behind a backslash stands for. -/
def letter? (b : UInt8) : Option UInt8 :=
  [(0x61, 7), (0x62, 8), (0x66, 12), (0x6E, 10), (0x72, 13), (0x74, 9), (0x76, 11)].lookup b

/-- The value of an octal digit. -/
def octal? (b : UInt8) : Option Nat := if Numeral.digitValue b < 8 then some (Numeral.digitValue b) else none

/-- Reads what stands behind a backslash: a byte, what is left, and the complaint about it. -/
def escape (b : UInt8) (bs : Bytes) : UInt8 × Bytes × Option Bytes :=
  match octal? b with
  | none => ((letter? b).getD b, bs, none)
  | some n =>
    match bs with
    | [] => (UInt8.ofNat n, bs, none)
    | c :: cs =>
      match octal? c with
      | none => (UInt8.ofNat n, bs, none)
      | some m =>
        let n := 8 * n + m
        match cs with
        | [] => (UInt8.ofNat n, cs, none)
        | d :: ds =>
          match octal? d with
          | none => (UInt8.ofNat n, cs, none)
          | some k =>
            if 8 * n + k < 256 then (UInt8.ofNat (8 * n + k), ds, none)
            else (UInt8.ofNat n, cs, some (Utf8.encode "warning: the ambiguous octal escape \\" ++ [b, c, d] ++
              Utf8.encode " is being\n\tinterpreted as the 2-byte sequence \\0" ++ [b, c] ++
              Utf8.encode ", " ++ [d]))

/-- The signs of a text, and the complaints about it. Every step uses up at least one byte. -/
def signs : Nat → Bytes → List Sign × List Bytes
  | 0, _ => ([], [])
  | _, [] => ([], [])
  | _, [0x5C] =>
    ([⟨0x5C, false⟩], [Utf8.encode "warning: an unescaped backslash at end of string is not portable"])
  | n + 1, 0x5C :: b :: bs =>
    let (byte, rest, complaint) := escape b bs
    let (more, complaints) := signs n rest
    (⟨byte, true⟩ :: more, complaint.toList ++ complaints)
  | n + 1, b :: bs =>
    let (more, complaints) := signs n bs
    (⟨b, false⟩ :: more, complaints)

/-- A named class of bytes. -/
inductive ByteClass where
  | alnum
  | alpha
  | blank
  | cntrl
  | digit
  | graph
  | lower
  | print
  | punct
  | space
  | upper
  | xdigit
  deriving DecidableEq, Repr

namespace ByteClass

/-- The names of the classes. -/
def names : List (String × ByteClass) :=
  [("alnum", alnum), ("alpha", alpha), ("blank", blank), ("cntrl", cntrl), ("digit", digit), ("graph", graph),
    ("lower", lower), ("print", print), ("punct", punct), ("space", space), ("upper", upper), ("xdigit", xdigit)]

/-- The class of a name. -/
def ofName? (name : Bytes) : Option ByteClass := (names.find? fun c => Utf8.encode c.1 == name).map Prod.snd

/-- The byte is in the class. -/
def contains (c : ByteClass) (b : UInt8) : Bool :=
  let isLower := 0x61 ≤ b && b ≤ 0x7A
  let isUpper := 0x41 ≤ b && b ≤ 0x5A
  let isDigit := 0x30 ≤ b && b ≤ 0x39
  match c with
  | .alnum => isLower || isUpper || isDigit
  | .alpha => isLower || isUpper
  | .blank => b == 0x20 || b == 0x09
  | .cntrl => b < 0x20 || b == 0x7F
  | .digit => isDigit
  | .graph => 0x21 ≤ b && b ≤ 0x7E
  | .lower => isLower
  | .print => 0x20 ≤ b && b ≤ 0x7E
  | .punct => 0x21 ≤ b && b ≤ 0x7E && !(isLower || isUpper || isDigit)
  | .space => Numeral.isSpace b
  | .upper => isUpper
  | .xdigit => Numeral.digitValue b < 16

/-- The class is one of those that differ in case. -/
def hasCase (c : ByteClass) : Bool := c == lower || c == upper

end ByteClass

/-- A piece of a text that says which bytes are meant. A byte may be repeated so many times, or, for zero, as
often as needed. -/
inductive Piece where
  | byte (b : UInt8)
  | range (first last : UInt8)
  | named (c : ByteClass)
  | same (b : UInt8)
  | repeated (b : UInt8) (count : Nat)
  deriving DecidableEq, Repr

/-- A byte as complaints show it. -/
def shownByte (b : UInt8) : Bytes :=
  if Quoting.isPrintable b then [b] else [0x5C, 0x30 + b / 64, 0x30 + b / 8 % 8, 0x30 + b % 8]

/-- A text as complaints show it. -/
def shownText (bs : Bytes) : Bytes :=
  bs.flatMap fun b => if b = 0x5C then [b, b] else if Quoting.isPrintable b then [b] else Quoting.escape b

/-- The signs up to a mark and a closing bracket, and what stands behind these. -/
def upTo (mark : UInt8) : List Sign → Option (List Sign × List Sign)
  | a :: b :: rest =>
    if a.is mark && b.is 0x5D then some ([], rest)
    else (upTo mark (b :: rest)).map fun (inside, rest) => (a :: inside, rest)
  | _ => none

/-- A star, digits and a closing bracket come next. -/
def hasCount : List Sign → Bool
  | s :: rest =>
    s.is 0x2A && match rest.dropWhile fun s => Numeral.isDigit s.byte with
      | t :: _ => t.is 0x5D
      | [] => false
  | [] => false

/-- The greatest count. -/
def mostRepeats : Nat := Nat.pow 2 64 - Nat.pow 2 8 - 1

/-- Reads a repeated byte behind its opening bracket. -/
def repeated? : List Sign → Except Bytes (Option (Piece × List Sign))
  | c :: star :: rest =>
    if !star.is 0x2A then .ok none
    else
      let inside := rest.takeWhile fun s => !s.isEscaped && s.byte != 0x5D
      match rest.drop inside.length with
      | close :: rest =>
        if !close.is 0x5D then .ok none
        else
          let ds := inside.map Sign.byte
          if ds = [] then .ok (some (.repeated c.byte 0, rest))
          else
            let base := if ds.head? = some 0x30 then 8 else 10
            match Numeral.readWith? (Numeral.digits? base) ds with
            | some ⟨false, n, []⟩ =>
              if n ≤ mostRepeats then .ok (some (.repeated c.byte n, rest))
              else .error (Utf8.encode "invalid repeat count " ++ Quoting.plain (shownText ds) ++
                Utf8.encode " in [c*n] construct")
            | _ => .error (Utf8.encode "invalid repeat count " ++ Quoting.plain (shownText ds) ++
              Utf8.encode " in [c*n] construct")
      | [] => .ok none
  | _ => .ok none

/-- Reads what stands between marks behind an opening bracket: a class by its name, or a byte. -/
def marked? (mark : UInt8) (rest : List Sign) : Except Bytes (Option (Piece × List Sign)) :=
  match upTo mark rest with
  | none => .ok none
  | some (inside, behind) =>
    let text := inside.map Sign.byte
    if text = [] then
      .error (Utf8.encode (if mark = 0x3A then "missing character class name '[::]'"
        else "missing equivalence class character '[==]'"))
    else if mark = 0x3A then
      match ByteClass.ofName? text with
      | some c => .ok (some (.named c, behind))
      | none =>
        if hasCount rest then .ok none
        else .error (Utf8.encode "invalid character class " ++ Quoting.plain (shownText text))
    else
      match text with
      | [b] => .ok (some (.same b, behind))
      | _ =>
        if hasCount rest then .ok none
        else .error (shownText text ++ Utf8.encode ": equivalence class operand must be a single character")

/-- Reads what an opening bracket begins, if it begins something. -/
def bracketed? (rest : List Sign) : Except Bytes (Option (Piece × List Sign)) := do
  let marked ← match rest with
    | m :: inside => if m.is 0x3A || m.is 0x3D then marked? m.byte inside else pure none
    | [] => pure none
  match marked with
  | some found => pure (some found)
  | none => repeated? rest

/-- The pieces of a text. Every step uses up at least one sign. -/
def pieces : Nat → List Sign → Except Bytes (List Piece)
  | 0, _ => .ok []
  | n + 1, a :: b :: c :: rest => do
    let found ← if a.is 0x5B then bracketed? (b :: c :: rest) else pure none
    match found with
    | some (piece, rest) => pure (piece :: (← pieces n rest))
    | none =>
      if b.is 0x2D then
        if c.byte < a.byte then
          throw (Utf8.encode "range-endpoints of '" ++ shownByte a.byte ++ [0x2D] ++ shownByte c.byte ++
            Utf8.encode "' are in reverse collating sequence order")
        else pure (.range a.byte c.byte :: (← pieces n rest))
      else pure (.byte a.byte :: (← pieces n (b :: c :: rest)))
  | _, few => .ok (few.map fun s => .byte s.byte)

/-- All bytes in order. -/
def allBytes : Bytes := (List.range 256).map UInt8.ofNat

/-- No more of a repeated byte than this makes a difference. -/
def enough : Nat := 65536

/-- The bytes that a piece means, in order. -/
def Piece.bytes : Piece → Bytes
  | .byte b => [b]
  | .range first last => allBytes.filter fun b => first ≤ b && b ≤ last
  | .named c => allBytes.filter c.contains
  | .same b => [b]
  | .repeated b count => List.replicate (min count enough) b

/-- How many bytes a piece means. -/
def Piece.size : Piece → Nat
  | .repeated _ count => count
  | p => p.bytes.length

/-- The piece is repeated as often as needed. -/
def Piece.isOpen : Piece → Bool
  | .repeated _ 0 => true
  | _ => false

/-- The piece is one of the classes that differ in case. -/
def Piece.case? : Piece → Option ByteClass
  | .named c => if c.hasCase then some c else none
  | _ => none

/-- The last byte of a piece, if it may stand for more. -/
def Piece.last? : Piece → Option UInt8
  | .byte b => some b
  | .range _ last => some last
  | .repeated b _ => some b
  | _ => none

/-- A byte that some pieces mean: the class with a case that it comes from, and whether its piece begins with
it. -/
structure Member where
  byte : UInt8
  case? : Option ByteClass := none
  isFirst : Bool := false

/-- The bytes that pieces mean, in order. -/
def members (ps : List Piece) : List Member :=
  ps.flatMap fun p => p.bytes.zipIdx.map fun (b, i) => ⟨b, p.case?, i == 0⟩

/-- The members of the pieces behind the present one. -/
def nextPiece (ms : List Member) : List Member := ms.dropWhile (!·.isFirst)

/-- Classes that differ in case stand at the same places in both lists. Every step uses up a member. -/
def isAligned : Nat → List Member → List Member → Bool
  | n + 1, a :: as, b :: bs =>
    if b.case?.isSome then
      if b.isFirst && !(a.isFirst && a.case?.isSome) then false
      else isAligned n (nextPiece as) (nextPiece bs)
    else isAligned n as bs
  | _, [], b :: _ => !(b.isFirst && b.case?.isSome)
  | _, _, _ => true

/-- What each byte is replaced by. -/
abbrev Table := Array UInt8

/-- Every byte stays as it is. -/
def identity : Table := allBytes.toArray

/-- The table for two lists of members. The last one counts for a byte that is there more than once; between
classes that differ in case, letters change their case. -/
def tableOf : Nat → List Member → List Member → Table → Table
  | n + 1, a :: as, b :: bs, t =>
    match a.case?, b.case? with
    | some .lower, some .upper =>
      let t := (Piece.named .lower).bytes.foldl (fun t c => t.setIfInBounds c.toNat (c - 0x20)) t
      tableOf n (nextPiece as) (nextPiece bs) t
    | some .upper, some .lower =>
      let t := (Piece.named .upper).bytes.foldl (fun t c => t.setIfInBounds c.toNat (c + 0x20)) t
      tableOf n (nextPiece as) (nextPiece bs) t
    | _, _ => tableOf n as bs (t.setIfInBounds a.byte.toNat b.byte)
  | _, _, _, t => t

/-- Some bytes, as a table of which of them are meant. -/
def setOf (ps : List Piece) (isComplement : Bool) : Array Bool :=
  let bytes := ps.flatMap Piece.bytes
  let named := bytes.foldl (fun t b => t.setIfInBounds b.toNat true) (Array.replicate 256 false)
  if isComplement then named.map (!·) else named

/-- The byte is meant. -/
def isIn (set : Array Bool) (b : UInt8) : Bool := set.getD b.toNat false

/-- How the two texts are used. -/
structure Use where
  isComplement : Bool
  translates : Bool
  truncates : Bool

/-- The pieces of the second text, fitted to the first, or why they do not go together. -/
def fit (u : Use) (first second : List Piece) : Except String (List Piece) := do
  let size (ps : List Piece) : Nat := (ps.map Piece.size).foldl (· + ·) 0
  let goal := if u.isComplement then (setOf first true).toList.count true else size first
  let open_ := second.countP Piece.isOpen
  let length := size second
  let fitted := if length ≤ goal ∧ open_ = 1 then
      second.map fun p => match p with
        | .repeated b 0 => .repeated b (goal - length)
        | p => p
    else second
  let length := if length ≤ goal ∧ open_ = 1 then goal else length
  if 1 < open_ then throw "only one [c*] repeat construct may appear in string2"
  if !u.translates then
    if 0 < open_ then throw "the [c*] construct may appear in string2 only when translating"
    pure fitted
  else
    if second.any fun p => match p with
      | .same _ => true
      | _ => false then
      throw "[=c=] expressions may not appear in string2 when translating"
    if second.any fun p => match p with
      | .named c => !c.hasCase
      | _ => false then
      throw "when translating, the only character classes that may appear in\nstring2 are 'upper' and 'lower'"
    let hasClass (ps : List Piece) : Bool := ps.any fun p => match p with
      | .named _ => true
      | _ => false
    let as := members first
    let bs := members fitted
    if !u.isComplement && hasClass second && !isAligned (as.length + bs.length + 1) as bs then
      throw "misaligned [:upper:] and/or [:lower:] construct"
    let fitted ← if length < goal ∧ !u.truncates then
        match fitted.getLast? with
        | none => throw "when not truncating set1, string2 must be non-empty"
        | some p =>
          match p.last? with
          | some b => pure (fitted ++ [.repeated b (goal - length)])
          | none =>
            throw "when translating with string1 longer than string2,\nthe latter string must not end with a character class"
      else pure fitted
    if u.isComplement && hasClass first &&
        !(match fitted.flatMap Piece.bytes with
          | [] => false
          | b :: more => more.all (· == b)) then
      throw "when translating with complemented character classes,\nstring2 must map all characters in the domain to one"
    pure fitted

/-- The pieces that an operand means; the program ends if it cannot be read. -/
def piecesOf (operand : Bytes) : Job (List Piece) := do
  let (signs, complaints) := signs operand.length operand
  for complaint in complaints do
    Job.complain complaint
  match pieces signs.length signs with
  | .ok ps => pure ps
  | .error message => Job.fail message

/-- Leaves one of several equal bytes in a row, if they are in a set. The last byte is given back too. -/
def squeeze (set : Array Bool) (last : Option UInt8) (bs : Bytes) : Bytes × Option UInt8 :=
  let (out, last) := bs.foldl (fun ((out, last) : Bytes × Option UInt8) b =>
    if last = some b ∧ isIn set b then (out, last) else (b :: out, some b)) (([] : Bytes), last)
  (out.reverse, last)

/-- How much is read at a time. -/
def chunkSize : Nat := 8192

/-- Changes the input piece by piece. -/
def filter (change : Bytes → Bytes) (squeezed : Option (Array Bool)) : Job Nat := do
  let (_, failure) ← Job.forChunks Job.input chunkSize (none : Option UInt8) fun last chunk => do
    let bytes := change chunk
    match squeezed with
    | none =>
      Job.printStrictly bytes
      pure (last, true)
    | some set =>
      let (bytes, last) := squeeze set last bytes
      Job.printStrictly bytes
      pure (last, true)
  match failure with
  | some e => Job.failOf (Utf8.encode "read error") e
  | none =>
    match ← Job.call (.close Job.input) with
    | .ok () => pure 0
    | .error e => Job.failOf (Utf8.encode "standard input") e

/-- Complains about the number of operands. -/
def refuseOperands {α : Type} (message : Bytes) (explanation : String) : Job α := do
  Job.complain message
  if explanation ≠ "" then Job.writeError (Utf8.encode (explanation ++ "\n"))
  Job.hint
  Job.exit 1

/-- Replaces, removes or squeezes bytes of the input. -/
def run : Job Nat := do
  let o ← Job.optionsOf "c|complement C d|delete s|squeeze-repeats t|truncate-set1" false (← Job.args)
  let deletes := o.has "delete"
  let squeezes := o.has "squeeze-repeats"
  let isComplement := o.has "complement" || o.has "C"
  let count := o.operands.length
  let least := if deletes == squeezes then 2 else 1
  let most := if deletes && !squeezes then 1 else 2
  if count = 0 then refuseOperands (Utf8.encode "missing operand") ""
  else if count < least then
    refuseOperands (Utf8.encode "missing operand after " ++ Quoting.plain (o.operands.getLastD []))
      (if squeezes then "Two strings must be given when both deleting and squeezing repeats."
        else "Two strings must be given when translating.")
  else if most < count then
    refuseOperands (Utf8.encode "extra operand " ++ Quoting.plain (o.operands.getD most []))
      (if count = 2 then "Only one string may be given when deleting without squeezing repeats." else "")
  else
    let first ← piecesOf (o.operands.headD [])
    let second ← match o.operands with
      | [_, text] => pure (some (← piecesOf text))
      | _ => pure none
    if first.any Piece.isOpen then
      Job.fail (Utf8.encode "the [c*] repeat construct may not appear in string1")
    let use : Use := ⟨isComplement, count == 2 && !deletes, o.has "truncate-set1"⟩
    let set := setOf first isComplement
    let kept (bs : Bytes) : Bytes := bs.filter (!isIn set ·)
    match second with
    | none => if squeezes then filter id (some set) else filter kept none
    | some second =>
      match fit use first second with
      | .error message => Job.fail (Utf8.encode message)
      | .ok second =>
        let squeezed := if squeezes then some (setOf second false) else none
        if deletes then filter kept squeezed
        else
          let as := if isComplement then (allBytes.filter (isIn set)).map fun b => { byte := b } else members first
          let bs := members second
          let bs := if isComplement then bs.map fun b => { b with case? := none } else bs
          let table := tableOf (as.length + bs.length) as bs identity
          filter (fun bytes => bytes.map fun b => table.getD b.toNat b) squeezed

end LineShell.Machine.Replacing
