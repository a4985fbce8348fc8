import LineShell.Machine.Printing.Floating
import LineShell.Machine.Tools.Options
import LineShell.Machine.Tools.Quoting

/-!
Durations: numbers with a letter behind them for the unit, and waiting for as long.
-/

namespace LineShell.Machine

/-- A duration in nanoseconds, or without end. -/
inductive Duration where
  | finite (nanoseconds : Nat)
  | endless
  deriving DecidableEq, Repr

namespace Duration

/-- Two durations one after the other. -/
def add : Duration → Duration → Duration
  | .finite a, .finite b => .finite (a + b)
  | _, _ => .endless

/-- Lets time pass. -/
def pass : Duration → Job Unit
  | .finite nanoseconds => Job.call (.sleep nanoseconds)
  | .endless => Job.forever

/-- The seconds of a unit. -/
def unit? : Bytes → Option Nat
  | [] => some 1
  | [b] => [(0x73, 1), (0x6D, 60), (0x68, 3600), (0x64, 86400)].lookup b
  | _ => none

/-- The longest duration that ever passes, in nanoseconds. -/
def longest : Nat := Nat.pow 2 63 * Nat.pow 10 9

/-- Reads a duration. -/
def read? (text : Bytes) : Option Duration :=
  match Floating.read? Floating.extended text with
  | none => none
  | some (x, rest) =>
    match x, unit? rest with
    | .infinite false, some _ => some .endless
    | .finite isNegative m e, some unit =>
      if isNegative ∧ m ≠ 0 then none
      else
        let (a, b) := Floating.fraction m e
        let nanoseconds := (a * unit * Nat.pow 10 9 + b - 1) / b
        some (if longest < nanoseconds then .endless else .finite nanoseconds)
    | _, _ => none

/-- Waits for the sum of durations. -/
def run : Job Nat := do
  let o ← Job.options ""
  if o.operands = [] then Job.refuseText "missing operand"
  else
    let durations := o.operands.map fun a => (a, read? a)
    let bad := durations.filter (·.2.isNone)
    bad.forM fun (a, _) => Job.complain (Utf8.encode "invalid time interval " ++ Quoting.plain a)
    if bad ≠ [] then
      Job.hint
      Job.exit 1
    else
      ((durations.filterMap Prod.snd).foldl add (.finite 0)).pass
      pure 0

end Duration
end LineShell.Machine
