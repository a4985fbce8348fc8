import LineShell.Text.Utf8

/-!
Numbers with a binary exponent, as programs read and print them. A number that is read is rounded to so many
bits, to the nearest and of two to the even one. Printing is exact: the digits are those of the number
itself, rounded in the same way to as many as are wanted.
-/

namespace LineShell.Machine

/-- A number `mantissa * 2 ^ exponent` with a sign, or what is none. -/
inductive Floating where
  | finite (isNegative : Bool) (mantissa : Nat) (exponent : Int)
  | infinite (isNegative : Bool)
  | notANumber (isNegative : Bool)
  deriving DecidableEq, Repr

namespace Floating

/-- The quotient of two numbers, rounded to the nearest, and of two to the even one. -/
def roundedQuotient (a b : Nat) : Nat :=
  let q := a / b
  let r := a % b
  if b < 2 * r ∨ (2 * r = b ∧ q % 2 = 1) then q + 1 else q

/-- How many bits a number has. -/
def bitLength (n : Nat) : Nat := if n = 0 then 0 else Nat.log2 n + 1

/-- How numbers are kept: how many bits a mantissa has, and the least exponent. -/
structure Format where
  bits : Nat
  least : Int
  greatest : Int
  deriving DecidableEq, Repr

/-- Numbers of 64 bits. -/
def double : Format := ⟨53, -1074, 971⟩

/-- Numbers of 80 bits. -/
def extended : Format := ⟨64, -16445, 16320⟩

/-- The number of a format that is nearest to a fraction. -/
def ofFraction (f : Format) (isNegative : Bool) (a b : Nat) : Floating :=
  if a = 0 then .finite isNegative 0 0
  else
    let guess : Int := (bitLength a : Int) - bitLength b - f.bits
    let at_ (e : Int) : Nat :=
      if 0 ≤ e then roundedQuotient a (b * Nat.pow 2 e.toNat) else roundedQuotient (a * Nat.pow 2 (-e).toNat) b
    let e := max f.least (if bitLength (at_ guess) ≤ f.bits then guess else guess + 1)
    let e := if f.least < e ∧ bitLength (at_ e) < f.bits then e - 1 else e
    let m := at_ e
    let (m, e) := if bitLength m ≤ f.bits then (m, e) else (m / 2, e + 1)
    if f.greatest < e then .infinite isNegative else .finite isNegative m e

/-- A decimal digit. -/
def isDigit (b : UInt8) : Bool := 0x30 ≤ b && b ≤ 0x39

/-- The value of a digit, also of one in base sixteen. -/
def digitValue (b : UInt8) : Nat :=
  if isDigit b then b.toNat - 0x30
  else if 0x61 ≤ b ∧ b ≤ 0x66 then b.toNat - 0x57
  else if 0x41 ≤ b ∧ b ≤ 0x46 then b.toNat - 0x37
  else 99

/-- The number that digits make. -/
def numberIn (base : Nat) (ds : Bytes) : Nat := ds.foldl (fun v b => v * base + digitValue b) 0

/-- The exponent behind a letter, and what is left. -/
def exponent? (letters : Bytes) (bs : Bytes) : Option (Int × Bytes) :=
  match bs with
  | e :: rest =>
    if !letters.contains e then none
    else
      let (isNegative, rest) := match rest with
        | 0x2D :: rest => (true, rest)
        | 0x2B :: rest => (false, rest)
        | rest => (false, rest)
      let ds := rest.takeWhile isDigit
      if ds = [] then none
      else
        let n : Int := min (numberIn 10 ds) 100000
        some (if isNegative then -n else n, rest.drop ds.length)
  | [] => none

/-- A letter in lower case. -/
def lower (b : UInt8) : UInt8 := if 0x41 ≤ b ∧ b ≤ 0x5A then b + 0x20 else b

/-- The bytes start with a word, in either case. -/
def startsWith (word : String) (bs : Bytes) : Bool :=
  (Utf8.encode word).isPrefixOf (bs.map lower)

/-- Reads the digits of a number with a point among them: the number without its point, how many digits are
behind the point, and what is left. -/
def pointed? (base : Nat) (bs : Bytes) : Option (Nat × Nat × Bytes) :=
  let whole := bs.takeWhile fun b => digitValue b < base
  let rest := bs.drop whole.length
  let fraction := match rest with
    | 0x2E :: more => more.takeWhile fun b => digitValue b < base
    | _ => []
  let rest := match rest with
    | 0x2E :: more => if whole = [] ∧ fraction = [] then rest else more.drop fraction.length
    | _ => rest
  if whole = [] ∧ fraction = [] then none
  else some (numberIn base (whole ++ fraction), fraction.length, rest)

/-- Reads a number at the start of bytes, behind white space; what is left is given back. -/
def read? (f : Format) (bs : Bytes) : Option (Floating × Bytes) :=
  let bs := bs.dropWhile fun b => b == 0x20 || (0x09 ≤ b && b ≤ 0x0D)
  let (isNegative, bs) := match bs with
    | 0x2D :: rest => (true, rest)
    | 0x2B :: rest => (false, rest)
    | rest => (false, rest)
  if startsWith "infinity" bs then some (.infinite isNegative, bs.drop 8)
  else if startsWith "inf" bs then some (.infinite isNegative, bs.drop 3)
  else if startsWith "nan" bs then some (.notANumber isNegative, bs.drop 3)
  else
    let hexadecimal := if startsWith "0x" bs then pointed? 16 (bs.drop 2) else none
    match hexadecimal with
    | some (n, places, rest) =>
      let (e, rest) := (exponent? [0x70, 0x50] rest).getD (0, rest)
      let e := e - 4 * places
      some (if 0 ≤ e then ofFraction f isNegative (n * Nat.pow 2 e.toNat) 1
        else ofFraction f isNegative n (Nat.pow 2 (-e).toNat), rest)
    | none =>
      match pointed? 10 bs with
      | none => none
      | some (n, places, rest) =>
        let (e, rest) := (exponent? [0x65, 0x45] rest).getD (0, rest)
        let e := e - places
        some (if n = 0 then .finite isNegative 0 0
          else if 0 ≤ e then ofFraction f isNegative (n * Nat.pow 10 (min e.toNat 6000)) 1
          else ofFraction f isNegative n (Nat.pow 10 (-e).toNat), rest)

/-! ### Digits -/

/-- The number as a fraction. -/
def fraction (m : Nat) (e : Int) : Nat × Nat := if 0 ≤ e then (m * Nat.pow 2 e.toNat, 1) else (m, Nat.pow 2 (-e).toNat)

/-- The digits of a number, at least so many. -/
def digits (least n : Nat) : Bytes :=
  let ds := Utf8.encode s!"{n}"
  List.replicate (least - ds.length) 0x30 ++ ds

/-- Digits with a point among them, so many behind it. -/
def withPoint (places : Nat) (keepsPoint : Bool) (n : Nat) : Bytes :=
  let ds := digits (places + 1) n
  let whole := ds.take (ds.length - places)
  if places = 0 then whole ++ (if keepsPoint then [0x2E] else [])
  else whole ++ 0x2E :: ds.drop (ds.length - places)

/-- A fraction with so many places behind the point. -/
def fixed (places : Nat) (keepsPoint : Bool) (a b : Nat) : Bytes :=
  withPoint places keepsPoint (roundedQuotient (a * Nat.pow 10 places) b)

/-- The power of ten that a fraction is at least. -/
def powerOfTen (a b : Nat) : Int :=
  if b ≤ a then ((toString (a / b)).length : Int) - 1
  else
    let k := (toString ((b + a - 1) / a)).length
    let isAtLeast (k : Nat) : Bool := b ≤ a * Nat.pow 10 k
    if isAtLeast (k - 1) then 1 - (k : Int) else -(k : Int)

/-- The digits of a fraction, one before the point and so many behind it, as one number, and the power of ten
of the first. -/
def scaled (places : Nat) (a b : Nat) : Nat × Int :=
  if a = 0 then (0, 0)
  else
    let p := powerOfTen a b
    let shift : Int := places - p
    let n := if 0 ≤ shift then roundedQuotient (a * Nat.pow 10 shift.toNat) b
      else roundedQuotient a (b * Nat.pow 10 (-shift).toNat)
    if Nat.pow 10 (places + 1) ≤ n then (n / 10, p + 1) else (n, p)

/-- The exponent as it is shown. -/
def exponentText (letter : UInt8) (e : Int) : Bytes :=
  letter :: (if e < 0 then 0x2D else 0x2B) :: digits 2 e.natAbs

/-- A fraction with an exponent. -/
def scientific (places : Nat) (keepsPoint : Bool) (letter : UInt8) (a b : Nat) : Bytes :=
  let (n, e) := scaled places a b
  withPoint places keepsPoint n ++ exponentText letter e

/-- Takes the zeros behind a point off, and the point if nothing is left behind it. -/
def withoutZeros (bs : Bytes) : Bytes :=
  if bs.contains 0x2E then
    let rest := bs.reverse.dropWhile (· == 0x30)
    (if rest.head? = some 0x2E then rest.drop 1 else rest).reverse
  else bs

/-- A fraction in the shorter of both ways, with so many digits that count. -/
def general (places : Nat) (keepsZeros : Bool) (letter : UInt8) (a b : Nat) : Bytes :=
  let wanted := if places = 0 then 1 else places
  let (n, e) := scaled (wanted - 1) a b
  if -4 ≤ e ∧ e < wanted then
    let text := fixed (wanted - 1 - e).toNat keepsZeros a b
    if keepsZeros then text else withoutZeros text
  else
    let text := withPoint (wanted - 1) keepsZeros n
    (if keepsZeros then text else withoutZeros text) ++ exponentText letter e

/-- A digit in base sixteen. -/
def hexDigit (n : Nat) : UInt8 := if n < 10 then UInt8.ofNat (0x30 + n) else UInt8.ofNat (0x57 + n)

/-- The digits of a number in base sixteen, so many of them. -/
def hexDigits : Nat → Nat → Bytes
  | 0, _ => []
  | n + 1, v => hexDigits n (v / 16) ++ [hexDigit (v % 16)]

/-- A number in base sixteen with a binary exponent. The digit before the point has so many bits. -/
def hexadecimal (f : Format) (places : Option Nat) (m : Nat) (e : Int) : Bytes :=
  let leading := if f.bits = 64 then 4 else 1
  let rest := f.bits - leading
  let shift := f.bits - bitLength m
  let (m, e) := if m = 0 then (0, -(rest : Int)) else (m * Nat.pow 2 shift, e - shift)
  let count := rest / 4
  let (m, count) := match places with
    | none => (m, count)
    | some p => if p < count then (roundedQuotient m (Nat.pow 16 (count - p)), p) else (m * Nat.pow 16 (p - count), p)
  let whole := m / Nat.pow 16 count
  let ds := hexDigits count (m % Nat.pow 16 count)
  let ds := if places.isNone then (ds.reverse.dropWhile (· == 0x30)).reverse else ds
  let power := e + rest
  Utf8.encode "0x" ++ hexDigits (if 16 ≤ whole then 2 else 1) whole ++
    (if ds = [] then [] else 0x2E :: ds) ++
    0x70 :: (if power < 0 then 0x2D else 0x2B) :: Utf8.encode s!"{power.natAbs}"

end Floating
end LineShell.Machine
