import LineShell.Machine.Printing.Numeral
import LineShell.Machine.Tools.Job
import LineShell.Machine.Tools.Quoting

/-!
Amounts as arguments: a number, and a letter or two behind it that say in what unit it counts.
-/

namespace LineShell.Machine

/-- Why an argument is no amount. -/
inductive AmountFault where
  | malformed
  | tooLarge
  deriving DecidableEq, Repr

namespace Amount

/-- The powers of the letters that make amounts larger. -/
def powers : List (Char × Nat) :=
  [('k', 1), ('K', 1), ('m', 2), ('M', 2), ('g', 3), ('G', 3), ('t', 4), ('T', 4), ('P', 5), ('E', 6), ('Z', 7),
    ('Y', 8)]

/-- The unit that letters name, where some letters are allowed. -/
def unit? (letters : String) (bs : Bytes) : Option Nat :=
  match bs.map fun b => Char.ofNat b.toNat with
  | [] => some 1
  | c :: rest =>
    if !letters.toList.contains c then none
    else if c = 'b' then (if rest = [] then some 512 else none)
    else if c = 'c' then (if rest = [] then some 1 else none)
    else if c = 'w' then (if rest = [] then some 2 else none)
    else
      match powers.lookup c, rest with
      | some p, [] => some (Nat.pow 1024 p)
      | some p, ['B'] => some (Nat.pow 1000 p)
      | some p, ['i', 'B'] => some (Nat.pow 1024 p)
      | _, _ => none

/-- The greatest amount. -/
def greatest : Nat := Nat.pow 2 64 - 1

/-- The letters that most programs know. -/
def letters : String := "bkKmMGTPEZY"

/-- Reads an amount. A unit alone is one of it. -/
def read (letters : String) (bs : Bytes) : Except AmountFault Nat :=
  let bs := bs.dropWhile Numeral.isSpace
  let bs := if bs.head? = some 0x2B then bs.drop 1 else bs
  let ds := bs.takeWhile Numeral.isDigit
  let rest := bs.drop ds.length
  if ds = [] ∧ rest = [] then .error .malformed
  else
    match unit? letters rest with
    | none => .error .malformed
    | some unit =>
      let n := (if ds = [] then 1 else Numeral.valueOf 10 ds) * unit
      if greatest < n then .error .tooLarge else .ok n

/-- Why an argument is refused. -/
def reason : AmountFault → Bytes
  | .malformed => []
  | .tooLarge => Utf8.encode ": Value too large for defined data type"

end Amount

namespace Job

/-- An argument as an amount; the program ends if it is none. -/
def amount (what letters : String) (a : Bytes) : Job Nat :=
  match Amount.read letters a with
  | .ok n => pure n
  | .error e => fail (Utf8.encode (what ++ ": ") ++ Quoting.plain a ++ Amount.reason e)

end Job
end LineShell.Machine
