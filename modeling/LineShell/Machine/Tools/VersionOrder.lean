import LineShell.Machine.Printing.Numeral

/-!
The order of names with numbers in them: a number counts as one, whatever its length. What looks like the
suffix of a file name counts only for names that are equal without it.
-/

namespace LineShell.Machine.VersionOrder

/-- A letter. -/
def isLetter (b : UInt8) : Bool := (0x41 ≤ b && b ≤ 0x5A) || (0x61 ≤ b && b ≤ 0x7A)

/-- The rank of the next byte among those that are no digits: a tilde comes before the end, digits before
letters, and letters before other bytes. -/
def rank : Bytes → Int
  | [] => -1
  | b :: _ =>
    if Numeral.isDigit b then 0
    else if isLetter b then b.toNat
    else if b = 0x7E then -2
    else b.toNat + 256

/-- The next byte is there and is no digit. -/
def startsWord : Bytes → Bool
  | [] => false
  | b :: _ => !Numeral.isDigit b

/-- Compares by words and numbers in turn. Every step uses up at least one byte. -/
def compareRuns : Nat → Bytes → Bytes → Ordering
  | 0, _, _ => .eq
  | _, [], [] => .eq
  | n + 1, a, b =>
    if startsWord a || startsWord b then
      if rank a = rank b then compareRuns n (a.drop 1) (b.drop 1) else compare (rank a) (rank b)
    else
      let x := a.dropWhile (· == 0x30)
      let y := b.dropWhile (· == 0x30)
      let xs := x.takeWhile Numeral.isDigit
      let ys := y.takeWhile Numeral.isDigit
      let numbers := (compare xs.length ys.length).then
        (compare (Numeral.valueOf 10 xs) (Numeral.valueOf 10 ys))
      numbers.then (compareRuns n (x.drop xs.length) (y.drop ys.length))

/-- A byte of a suffix behind its first letter. -/
def isSuffixByte (b : UInt8) : Bool := isLetter b || Numeral.isDigit b || b == 0x7E

/-- The bytes behind suffixes that stand here. Every step uses up at least two bytes. -/
def dropSuffixes : Nat → Bytes → Bytes
  | n + 1, 0x2E :: b :: rest =>
    if isLetter b || b == 0x7E then dropSuffixes n (rest.dropWhile isSuffixByte) else 0x2E :: b :: rest
  | _, bs => bs

/-- How long a name is without the suffixes at its end. -/
def stemLength : Nat → Nat → Bytes → Nat
  | 0, done, _ => done
  | _, done, [] => done
  | n + 1, done, _ :: bs =>
    let rest := dropSuffixes bs.length bs
    if rest = [] then done + 1 else stemLength n (done + 1 + (bs.length - rest.length)) rest

/-- A name without the suffixes at its end. -/
def stem (name : Bytes) : Bytes := name.take (stemLength name.length 0 name)

/-- Where names with a dot in front stand: before all others, and a dot or two of them before those. -/
def front (name : Bytes) : Nat :=
  if name = [] then 0
  else if name = [0x2E] then 1
  else if name = [0x2E, 0x2E] then 2
  else if name.head? = some 0x2E then 3
  else 4

/-- Compares two names. -/
def compare (a b : Bytes) : Ordering :=
  (Ord.compare (front a) (front b)).then <|
    (compareRuns (a.length + b.length + 1) (stem a) (stem b)).then
      (compareRuns (a.length + b.length + 1) a b)

end LineShell.Machine.VersionOrder
