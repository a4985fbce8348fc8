/-!
Binary floating point numbers of 64 bits, exactly. A decimal number becomes the nearest of them, and of
two equally near ones the one with an even mantissa. A number is written with the fewest digits that
still read back as it, without an exponent.
-/

namespace LineShell.Decimal

/-- A floating point number; a finite one is the mantissa times a power of two. -/
inductive Binary64 where
  | finite (isNegative : Bool) (mantissa : Nat) (exponent : Int)
  | infinite (isNegative : Bool)
  | nan
  deriving DecidableEq, Repr

namespace Binary64

/-- Mantissas are below this power of two. -/
def mantissaBits : Nat := 53

/-- The least exponent. -/
def minExponent : Int := -1074

/-- The greatest exponent. -/
def maxExponent : Int := 971

/-- A natural power, which is one for a negative exponent. -/
def power (base : Nat) (exponent : Int) : Nat := Nat.pow base exponent.toNat

/-- The quotient rounded to the nearest whole number, a half to the even one. -/
def divideToEven (numerator denominator : Nat) : Nat :=
  let quotient := numerator / denominator
  let twice := 2 * (numerator % denominator)
  if twice < denominator then quotient
  else if denominator < twice then quotient + 1
  else quotient + quotient % 2

/-- A positive quotient at the exponent that gives it a full mantissa, or at the least one. -/
def ofQuotient (isNegative : Bool) (numerator denominator : Nat) : Binary64 :=
  let guess : Int := (numerator.log2 : Int) - denominator.log2 - mantissaBits
  let isFull (e : Int) : Bool :=
    Nat.pow 2 mantissaBits * (denominator * power 2 e) ≤ numerator * power 2 (-e)
  let e := max (if isFull guess then guess + 1 else guess) minExponent
  let m := divideToEven (numerator * power 2 (-e)) (denominator * power 2 e)
  let (m, e) := if m = Nat.pow 2 mantissaBits then (Nat.pow 2 (mantissaBits - 1), e + 1) else (m, e)
  if maxExponent < e then .infinite isNegative else .finite isNegative m e

/-- The number nearest to `digits` times a power of ten. Exponents far beyond all numbers are seen to be
so without taking the power. -/
def ofDecimal (isNegative : Bool) (digits : Nat) (exponent : Int) : Binary64 :=
  let size : Int := Nat.log2 digits
  if digits = 0 ∨ exponent < -(400 + 2 * size) then .finite isNegative 0 minExponent
  else if 400 < exponent + size / 4 then .infinite isNegative
  else ofQuotient isNegative (digits * power 10 exponent) (power 10 (-exponent))

/-! ### Writing -/

/-- A decimal number: digits and the power of ten that they are multiplied by. -/
structure Digits where
  value : Nat
  exponent : Int
  deriving DecidableEq, Repr

/-- The ends of the interval of numbers that are read as a given one, in quarters of its unit, and
whether they belong to it. -/
structure Interval where
  low : Nat
  high : Nat
  isClosed : Bool

/-- The interval around a mantissa. The distance to the next lower number is half as great where the
mantissa is the least full one. -/
def interval (mantissa : Nat) (exponent : Int) : Interval :=
  let isLowest := mantissa = Nat.pow 2 (mantissaBits - 1) ∧ minExponent < exponent
  { low := if isLowest then 4 * mantissa - 1 else 4 * mantissa - 2
    high := 4 * mantissa + 2
    isClosed := mantissa % 2 = 0 }

/-- The decimal number of at most so many digits that reads back as `mantissa` times a power of two and
is nearest to it, if there is one. `top` is the power of ten just above the number. -/
def withDigits (mantissa : Nat) (exponent top : Int) (count : Nat) : Option Digits :=
  let unit : Int := top - count
  let i := interval mantissa exponent
  -- both sides of a comparison are multiplied by all denominators
  let scaled (quarters : Nat) : Nat := quarters * power 2 exponent * power 10 (-unit)
  let grid (c : Nat) : Nat := 4 * c * power 2 (-exponent) * power 10 unit
  let exact := scaled (4 * mantissa)
  let below := exact / grid 1
  let isIn (c : Nat) : Bool :=
    if i.isClosed then scaled i.low ≤ grid c && grid c ≤ scaled i.high
    else scaled i.low < grid c && grid c < scaled i.high
  let lower := if isIn below then some below else none
  let upper := if isIn (below + 1) then some (below + 1) else none
  match lower, upper with
  | some c, none | none, some c => some ⟨c, unit⟩
  | none, none => none
  | some c, some d =>
    let down := exact - grid c
    let up := grid d - exact
    if down < up ∨ (down = up ∧ c % 2 = 0) then some ⟨c, unit⟩ else some ⟨d, unit⟩

/-- The least power of ten above a positive number, looked for upwards from a lower bound. -/
def topFrom (mantissa : Nat) (exponent : Int) : Nat → Int → Int
  | 0, top => top
  | n + 1, top =>
    if mantissa * power 2 exponent * power 10 (-top) < power 10 top * power 2 (-exponent) then top
    else topFrom mantissa exponent n (top + 1)

/-- The fewest digits that read back as a positive number. -/
def shortest (mantissa : Nat) (exponent : Int) : Digits :=
  let top := topFrom mantissa exponent 700 (-330)
  ((List.range 17).findSome? fun n => withDigits mantissa exponent top (n + 1)).getD ⟨mantissa, 0⟩

/-- The digits without the zeros at their end. -/
def Digits.trimmed (d : Digits) : Digits :=
  let text := Nat.toDigits 10 d.value
  let zeros := (text.reverse.takeWhile (· == '0')).length
  ⟨d.value / Nat.pow 10 zeros, d.exponent + zeros⟩

/-- Digits written without an exponent, and with a point in any case. -/
def Digits.text (d : Digits) : String :=
  let digits := Nat.toDigits 10 d.value
  if 0 ≤ d.exponent then
    String.ofList (digits ++ List.replicate d.exponent.toNat '0') ++ ".0"
  else
    let places := (-d.exponent).toNat
    let digits := List.replicate (places + 1 - digits.length) '0' ++ digits
    String.ofList (digits.take (digits.length - places)) ++ "." ++
      String.ofList (digits.drop (digits.length - places))

/-- The text of a number. -/
def text : Binary64 → String
  | .finite isNegative mantissa exponent =>
    (if isNegative then "-" else "") ++
      (if mantissa = 0 then "0.0" else (shortest mantissa exponent).trimmed.text)
  | .infinite isNegative => if isNegative then "-inf" else "inf"
  | .nan => "NaN"

end Binary64
end LineShell.Decimal
