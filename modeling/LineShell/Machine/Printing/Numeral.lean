import LineShell.Text.Utf8

/-!
Whole numbers as programs read them: behind white space, with a sign, and in a base that may show in how the
number begins.
-/

namespace LineShell.Machine

/-- A whole number that was read: its sign, its size, and what is left. -/
structure Numeral where
  isNegative : Bool
  size : Nat
  rest : Bytes
  deriving DecidableEq, Repr

namespace Numeral

/-- White space. -/
def isSpace (b : UInt8) : Bool := b == 0x20 || (0x09 ≤ b && b ≤ 0x0D)

/-- The value of a digit; letters stand for the digits from ten on. -/
def digitValue (b : UInt8) : Nat :=
  if 0x30 ≤ b ∧ b ≤ 0x39 then b.toNat - 0x30
  else if 0x61 ≤ b ∧ b ≤ 0x7A then b.toNat - 0x57
  else if 0x41 ≤ b ∧ b ≤ 0x5A then b.toNat - 0x37
  else 99

/-- A decimal digit. -/
def isDigit (b : UInt8) : Bool := digitValue b < 10

/-- The number that digits make. -/
def valueOf (base : Nat) (ds : Bytes) : Nat := ds.foldl (fun v b => v * base + digitValue b) 0

/-- Reads digits; there must be one. -/
def digits? (base : Nat) (bs : Bytes) : Option (Nat × Bytes) :=
  let ds := bs.takeWhile fun b => digitValue b < base
  if ds = [] then none else some (valueOf base ds, bs.drop ds.length)

/-- Reads digits in the base that shows in how they begin. -/
def anyBase? (bs : Bytes) : Option (Nat × Bytes) :=
  match bs with
  | 0x30 :: x :: rest =>
    if x = 0x78 ∨ x = 0x58 then
      match digits? 16 rest with
      | some r => some r
      | none => some (0, x :: rest)
    else digits? 8 bs
  | bs => digits? 10 bs

/-- Reads a number behind white space and a sign. -/
def readWith? (digits : Bytes → Option (Nat × Bytes)) (bs : Bytes) : Option Numeral :=
  let bs := bs.dropWhile isSpace
  let (isNegative, bs) := match bs with
    | 0x2D :: rest => (true, rest)
    | 0x2B :: rest => (false, rest)
    | rest => (false, rest)
  (digits bs).map fun (size, rest) => ⟨isNegative, size, rest⟩

/-- Reads a decimal number. -/
def decimal? (bs : Bytes) : Option Numeral := readWith? (digits? 10) bs

/-- Reads a number in the base that shows in how it begins. -/
def read? (bs : Bytes) : Option Numeral := readWith? anyBase? bs

/-- The number with its sign. -/
def value (n : Numeral) : Int := if n.isNegative then -n.size else n.size

/-- The number does not fit into 64 bits with a sign. -/
def isTooLarge (n : Numeral) : Bool := n.value < -(Int.pow 2 63) || Int.pow 2 63 ≤ n.value

/-- The number as 64 bits with a sign hold it, or the one that is nearest to it. -/
def clamped (n : Numeral) : Int := max (-(Int.pow 2 63)) (min (Int.pow 2 63 - 1) n.value)

/-- The number does not fit into 64 bits without a sign. -/
def isTooLargeUnsigned (n : Numeral) : Bool := Nat.pow 2 64 ≤ n.size

/-- The number as 64 bits without a sign hold it; one below zero is counted from the other end. -/
def unsigned (n : Numeral) : Nat :=
  if Nat.pow 2 64 ≤ n.size then Nat.pow 2 64 - 1
  else if n.isNegative then (Nat.pow 2 64 - n.size) % Nat.pow 2 64
  else n.size

/-- A number in decimal digits. -/
def text (n : Nat) : Bytes := Utf8.encode s!"{n}"

/-- A number with blanks in front, up to a width. -/
def padded (width n : Nat) : Bytes := List.replicate (width - (text n).length) 0x20 ++ text n

end Numeral
end LineShell.Machine
