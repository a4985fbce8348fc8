import LineShell.Machine.Printing.Floating

/-!
Printing a value by a directive: in a field of some width, to the left or to the right, with a sign or
without, and with so many digits.
-/

namespace LineShell.Machine

/-- How a value is printed. -/
structure Directive where
  isLeft : Bool := false
  showsPlus : Bool := false
  showsBlank : Bool := false
  isAlternate : Bool := false
  fillsZeros : Bool := false
  width : Nat := 0
  precision : Option Nat := none
  deriving DecidableEq, Repr

/-- How a whole number without a sign is written. -/
inductive Radix where
  | decimal
  | octal
  | hexadecimal (isUpper : Bool)
  deriving DecidableEq, Repr

/-- How a number with a fraction is written. -/
inductive FloatStyle where
  | fixed
  | scientific
  | general
  | hexadecimal
  deriving DecidableEq, Repr

namespace Directive

/-- Adds a flag; none if the byte is no flag. -/
def withFlag? (d : Directive) (b : UInt8) : Option Directive :=
  if b = 0x2D then some { d with isLeft := true }
  else if b = 0x2B then some { d with showsPlus := true }
  else if b = 0x20 then some { d with showsBlank := true }
  else if b = 0x23 then some { d with isAlternate := true }
  else if b = 0x30 then some { d with fillsZeros := true }
  else none

/-- Sets the width; below zero it means one to the left. -/
def withWidth (d : Directive) (width : Int) : Directive :=
  if width < 0 then { d with isLeft := true, width := width.natAbs } else { d with width := width.toNat }

/-- Sets how many digits are wanted; below zero nothing is said about them. -/
def withPrecision (d : Directive) (precision : Int) : Directive :=
  { d with precision := if precision < 0 then none else some precision.toNat }

/-- Fills a field up with blanks, or with zeros behind what stands in front of the digits. -/
def fill (d : Directive) (zeros : Bool) (front digits : Bytes) : Bytes :=
  let missing := d.width - (front.length + digits.length)
  if d.isLeft then front ++ digits ++ List.replicate missing 0x20
  else if zeros then front ++ List.replicate missing 0x30 ++ digits
  else List.replicate missing 0x20 ++ front ++ digits

/-- Prints bytes, at most as many as the precision says. -/
def text (d : Directive) (bs : Bytes) : Bytes :=
  d.fill false [] (match d.precision with
    | none => bs
    | some n => bs.take n)

/-- Prints one byte. -/
def byte (d : Directive) (b : UInt8) : Bytes := d.fill false [] [b]

/-- What stands in front of a number: its sign. -/
def sign (d : Directive) (isNegative : Bool) : Bytes :=
  if isNegative then [0x2D] else if d.showsPlus then [0x2B] else if d.showsBlank then [0x20] else []

/-- The digits of a number, at least as many as the precision says. -/
def wholeDigits (d : Directive) (ds : Bytes) (isZero : Bool) : Bytes :=
  match d.precision with
  | none => ds
  | some 0 => if isZero then [] else ds
  | some n => List.replicate (n - ds.length) 0x30 ++ ds

/-- Prints a whole number with its sign. -/
def signed (d : Directive) (n : Int) : Bytes :=
  let ds := d.wholeDigits (Utf8.encode s!"{n.natAbs}") (n == 0)
  d.fill (d.fillsZeros && d.precision.isNone) (d.sign (n < 0)) ds

/-- The letters of a number in upper case. -/
def upper (bs : Bytes) : Bytes := bs.map fun b => if 0x61 ≤ b ∧ b ≤ 0x7A then b - 0x20 else b

/-- Prints a whole number without a sign. -/
def unsigned (d : Directive) (r : Radix) (n : Nat) : Bytes :=
  let base := match r with
    | .decimal => 10
    | .octal => 8
    | .hexadecimal _ => 16
  let plain := Utf8.encode (String.ofList (Nat.toDigits base n))
  let ds := d.wholeDigits plain (n == 0)
  let (front, ds) : Bytes × Bytes := match r with
    | .decimal => ([], ds)
    | .octal => ([], if d.isAlternate ∧ ds.head? ≠ some 0x30 then 0x30 :: ds else ds)
    | .hexadecimal isUpper =>
      let front := if d.isAlternate ∧ n ≠ 0 then [0x30, 0x78] else []
      if isUpper then (upper front, upper ds) else (front, ds)
  d.fill (d.fillsZeros && d.precision.isNone) front ds

/-- Prints a number with a fraction. -/
def floating (d : Directive) (f : Floating.Format) (style : FloatStyle) (isUpper : Bool) (x : Floating) : Bytes :=
  let cased (bs : Bytes) : Bytes := if isUpper then upper bs else bs
  match x with
  | .infinite isNegative => d.fill false (d.sign isNegative) (cased (Utf8.encode "inf"))
  | .notANumber isNegative => d.fill false (d.sign isNegative) (cased (Utf8.encode "nan"))
  | .finite isNegative m e =>
    let (a, b) := Floating.fraction m e
    let places := d.precision.getD 6
    match style with
    | .fixed => d.fill d.fillsZeros (d.sign isNegative) (Floating.fixed places d.isAlternate a b)
    | .scientific =>
      d.fill d.fillsZeros (d.sign isNegative) (cased (Floating.scientific places d.isAlternate 0x65 a b))
    | .general =>
      d.fill d.fillsZeros (d.sign isNegative) (cased (Floating.general places d.isAlternate 0x65 a b))
    | .hexadecimal =>
      let text := Floating.hexadecimal f d.precision m e
      d.fill d.fillsZeros (d.sign isNegative ++ cased (text.take 2)) (cased (text.drop 2))

end Directive
end LineShell.Machine
