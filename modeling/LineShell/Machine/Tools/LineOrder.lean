import LineShell.Machine.Printing.Directive
import LineShell.Machine.Printing.Floating
import LineShell.Machine.Printing.Numeral
import LineShell.Machine.Tools.VersionOrder
import LineShell.Text.ByteOrder

/-!
The order of lines. Lines are compared by keys, one after the other; a key is a part of a line, and says what
it is compared as: bytes, a number of some kind, a month, or a name with numbers in it.
-/

namespace LineShell.Machine.LineOrder

/-- What a key is compared as. -/
structure KeyStyle where
  dropsBlanksBefore : Bool := false
  dropsBlanksBehind : Bool := false
  isDictionary : Bool := false
  isPrintable : Bool := false
  folds : Bool := false
  isGeneral : Bool := false
  isHuman : Bool := false
  isMonth : Bool := false
  isNumeric : Bool := false
  isRandom : Bool := false
  isReversed : Bool := false
  isVersion : Bool := false
  deriving DecidableEq, Repr

/-- Nothing is said about the order, apart from its direction. -/
def KeyStyle.isDefault (s : KeyStyle) : Bool := { s with isReversed := false } == {}

/-- A key: the field and the byte where it starts, and those where it stops, counted from zero. Without a last
field it goes on to the end of the line; without a last byte it takes its whole last field. -/
structure Key where
  field : Nat := 0
  skipped : Nat := 0
  lastField : Option Nat := none
  lastLength : Nat := 0
  style : KeyStyle := {}
  deriving DecidableEq, Repr

/-- A blank. -/
def isBlank (b : UInt8) : Bool := b == 0x20 || b == 0x09 || b == 0x0A

/-- A line behind so many fields. A separator belongs to no field; without one, a field begins with its
blanks. -/
def behindFields (separator : Option UInt8) : Nat → Bytes → Bytes
  | 0, line => line
  | n + 1, line =>
    behindFields separator n <| match separator with
      | some s => (line.dropWhile (· ≠ s)).drop 1
      | none => (line.dropWhile isBlank).dropWhile (!isBlank ·)

/-- What is left of a line from the start of a key on. -/
def Key.start (k : Key) (separator : Option UInt8) (line : Bytes) : Bytes :=
  let rest := behindFields separator (min k.field (line.length + 1)) line
  (if k.style.dropsBlanksBefore then rest.dropWhile isBlank else rest).drop k.skipped

/-- What is left of a line behind a key. -/
def Key.stop (k : Key) (separator : Option UInt8) (line : Bytes) : Bytes :=
  match k.lastField with
  | none => []
  | some field =>
    let field := min field (line.length + 1)
    if k.lastLength = 0 then
      match separator with
      | some s => (behindFields separator field line).dropWhile (· ≠ s)
      | none => behindFields separator (field + 1) line
    else
      let rest := behindFields separator field line
      (if k.style.dropsBlanksBehind then rest.dropWhile isBlank else rest).drop k.lastLength

/-- The part of a line that a key is. -/
def Key.part (k : Key) (separator : Option UInt8) (line : Bytes) : Bytes :=
  let start := k.start separator line
  start.take (start.length - (k.stop separator line).length)

/-- A number as it stands in a line, without zeros that change nothing. -/
structure Number where
  isNegative : Bool
  whole : Nat
  fraction : Bytes
  deriving DecidableEq, Repr

/-- The number is zero. -/
def Number.isZero (n : Number) : Bool := n.whole == 0 && n.fraction.isEmpty

/-- Compares two numbers. -/
def Number.compare (a b : Number) : Ordering :=
  let size (a b : Number) : Ordering := (Ord.compare a.whole b.whole).then (compareBytes a.fraction b.fraction)
  if a.isZero && b.isZero then .eq
  else
    match a.isNegative && !a.isZero, b.isNegative && !b.isZero with
    | true, true => size b a
    | true, false => .lt
    | false, true => .gt
    | false, false => size a b

/-- Reads the number that bytes begin with, and what follows it. What is no number counts as zero. -/
def number (bs : Bytes) : Number × Bytes :=
  let bs := bs.dropWhile isBlank
  let isNegative := bs.head? == some 0x2D
  let bs := if isNegative then bs.drop 1 else bs
  let whole := bs.takeWhile Numeral.isDigit
  let rest := bs.drop whole.length
  let (fraction, rest) := match rest with
    | 0x2E :: more =>
      let ds := more.takeWhile Numeral.isDigit
      (ds, more.drop ds.length)
    | rest => ([], rest)
  (⟨isNegative, Numeral.valueOf 10 whole, (fraction.reverse.dropWhile (· == 0x30)).reverse⟩, rest)

/-- The order of the letters that make numbers larger. -/
def unitRank (b : UInt8) : Int :=
  (([0x6B, 0x4B, 0x4D, 0x47, 0x54, 0x50, 0x45, 0x5A, 0x59].zip [1, 1, 2, 3, 4, 5, 6, 7, 8]).lookup b).getD 0

/-- The names of the months. -/
def months : List Bytes :=
  ["JAN", "FEB", "MAR", "APR", "MAY", "JUN", "JUL", "AUG", "SEP", "OCT", "NOV", "DEC"].map Utf8.encode

/-- The month that bytes begin with, zero if there is none. -/
def month (bs : Bytes) : Nat :=
  let name := Directive.upper ((bs.dropWhile isBlank).take 3)
  (months.findIdx? (· == name)).elim 0 (· + 1)

/-- What a key of a line is compared by. -/
inductive KeyValue where
  | bytes (bs : Bytes)
  | number (unit : Int) (n : Number)
  | general (x : Option Floating)
  | month (n : Nat)
  | version (bs : Bytes)
  deriving DecidableEq, Repr

/-- Compares two numbers with an exponent. -/
def compareFloating (a b : Floating) : Ordering :=
  match a, b with
  | .notANumber _, .notANumber _ => .eq
  | .notANumber _, _ => .lt
  | _, .notANumber _ => .gt
  | .infinite x, .infinite y => Ord.compare y x
  | .infinite x, _ => if x then .lt else .gt
  | _, .infinite y => if y then .gt else .lt
  | .finite s m e, .finite t n f =>
    let least := min e f
    let scaled (isNegative : Bool) (m : Nat) (e : Int) : Int :=
      let size : Nat := m * Nat.pow 2 (e - least).toNat
      if isNegative then -(size : Int) else size
    Ord.compare (scaled s m e) (scaled t n f)

/-- Compares two values of a key. What is no number comes before all numbers. -/
def KeyValue.compare : KeyValue → KeyValue → Ordering
  | .bytes a, .bytes b => compareBytes a b
  | .number u a, .number v b => (Ord.compare u v).then (a.compare b)
  | .general none, .general none => .eq
  | .general none, .general (some _) => .lt
  | .general (some _), .general none => .gt
  | .general (some x), .general (some y) => compareFloating x y
  | .month a, .month b => Ord.compare a b
  | .version a, .version b => VersionOrder.compare a b
  | _, _ => .eq

/-- A byte that counts in the order of a dictionary. -/
def isWordByte (b : UInt8) : Bool :=
  isBlank b || Numeral.isDigit b || VersionOrder.isLetter b

/-- The bytes of a part that count. -/
def KeyStyle.counted (s : KeyStyle) (part : Bytes) : Bytes :=
  let part := if s.isDictionary then part.filter isWordByte
    else if s.isPrintable then part.filter fun b => 0x20 ≤ b && b ≤ 0x7E
    else part
  if s.folds then Directive.upper part else part

/-- What a part of a line is compared by. -/
def KeyStyle.value (s : KeyStyle) (part : Bytes) : KeyValue :=
  let counted := s.counted part
  if s.isNumeric then .number 0 (number counted).1
  else if s.isHuman then
    let (n, rest) := number counted
    let rank := if n.isZero then 0 else unitRank (rest.headD 0)
    .number (if n.isNegative then -rank else rank) n
  else if s.isGeneral then .general ((Floating.read? Floating.extended counted).map Prod.fst)
  else if s.isMonth then .month (month counted)
  else if s.isVersion then .version counted
  else .bytes counted

/-- How lines are ordered: by keys, and then as a whole unless it is said that they are not. -/
structure Order where
  keys : List Key := []
  separator : Option UInt8 := none
  isReversed : Bool := false
  isStable : Bool := false
  isUnique : Bool := false

/-- A line with what it is compared by. -/
structure Keyed where
  line : Bytes
  values : List KeyValue

/-- Finds what a line is compared by. -/
def Order.keyed (o : Order) (line : Bytes) : Keyed :=
  ⟨line, o.keys.map fun k => k.style.value (k.part o.separator line)⟩

/-- Compares the values of keys. -/
def compareValues : List Key → List KeyValue → List KeyValue → Ordering
  | k :: ks, a :: as, b :: bs =>
    let c := a.compare b
    (if k.style.isReversed then c.swap else c).then (compareValues ks as bs)
  | _, _, _ => .eq

/-- Compares two lines. -/
def Order.compare (o : Order) (a b : Keyed) : Ordering :=
  let keys := compareValues o.keys a.values b.values
  if o.keys ≠ [] ∧ (o.isStable ∨ o.isUnique) then keys
  else
    let whole := compareBytes a.line b.line
    keys.then (if o.isReversed then whole.swap else whole)

/-- Keeps the first of lines that are alike. -/
def Order.unique (o : Order) : List Keyed → List Keyed
  | [] => []
  | first :: more =>
    let (kept, _) := more.foldl (fun ((kept, last) : List Keyed × Keyed) l =>
      if o.compare last l = .eq then (kept, last) else (l :: kept, l)) ([first], first)
    kept.reverse

/-- Sorts lines. -/
def Order.sort (o : Order) (lines : List Keyed) : List Keyed :=
  let sorted := lines.mergeSort fun a b => (o.compare a b).isLE
  if o.isUnique then o.unique sorted else sorted

/-- Merges two lists of lines. Every step uses up a line. -/
def Order.mergeTwo (o : Order) : Nat → List Keyed → List Keyed → List Keyed → List Keyed
  | 0, done, _, _ => done.reverse
  | _, done, [], bs => done.reverse ++ bs
  | _, done, as, [] => done.reverse ++ as
  | n + 1, done, a :: as, b :: bs =>
    if (o.compare a b).isLE then o.mergeTwo n (a :: done) as (b :: bs)
    else o.mergeTwo n (b :: done) (a :: as) bs

/-- Merges lists of lines. -/
def Order.merge (o : Order) (lists : List (List Keyed)) : List Keyed :=
  let merged := lists.foldl (fun all next => o.mergeTwo (all.length + next.length) [] all next) []
  if o.isUnique then o.unique merged else merged

/-- The first line that is not where it belongs, with its number. -/
def Order.disorder? (o : Order) : Nat → List Keyed → Option (Nat × Keyed)
  | n, a :: b :: rest =>
    let c := o.compare a b
    if c = .gt ∨ (o.isUnique ∧ c = .eq) then some (n + 1, b) else o.disorder? (n + 1) (b :: rest)
  | _, _ => none

end LineShell.Machine.LineOrder
