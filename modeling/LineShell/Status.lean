/-!
How a command ended. A program leaves the 32-bit word that waiting for it gives; a failure of the
shell's own has a number. Both have a code, in which a signal counts as 128 and its number, and both
can be a success.
-/

namespace LineShell

/-- The word that describes the end of a program. -/
structure WaitStatus where
  raw : UInt32
  deriving DecidableEq, Repr

namespace WaitStatus

/-- The end of a program that exits with a code. -/
def exited (code : Nat) : WaitStatus := ⟨(UInt32.ofNat (code % 256)) <<< 8⟩

/-- The end of a program that a signal stops. -/
def signalled (signal : Nat) : WaitStatus := ⟨UInt32.ofNat (signal % 128)⟩

/-- The lowest seven bits: zero for an exit, and otherwise the signal. -/
def lowBits (w : WaitStatus) : Nat := w.raw.toNat % 128

/-- The code of a program that exited. -/
def exitCode? (w : WaitStatus) : Option Nat :=
  if w.lowBits = 0 then some (w.raw.toNat / 256 % 256) else none

/-- The signal that ended a program; all seven bits set mean that it only stopped or went on. -/
def signal? (w : WaitStatus) : Option Nat :=
  if 0 < w.lowBits ∧ w.lowBits < 127 then some w.lowBits else none

end WaitStatus

/-- How a command ended: as a program did, or with a number that the shell gives itself. -/
inductive Status where
  | ofProgram (wait : WaitStatus)
  | ofShell (code : Nat)
  deriving DecidableEq, Repr

namespace Status

/-- A builtin that did its work. -/
def success : Status := .ofShell 0

/-- A builtin or a start of a program that failed. -/
def failure : Status := .ofShell 1

/-- A line that is no command. -/
def syntaxError : Status := .ofShell 2

/-- A program that may not be executed. -/
def notExecutable : Status := .ofShell 126

/-- A program that there is not. -/
def notFound : Status := .ofShell 127

/-- The number that a status is shown as. -/
def code : Status → Nat
  | .ofProgram w =>
    match w.exitCode? with
    | some c => c
    | none =>
      match w.signal? with
      | some s => 128 + s
      | none => 1
  | .ofShell c => c

/-- A program succeeds only if no bit of its word is set. -/
def isSuccess : Status → Bool
  | .ofProgram w => w.raw == 0
  | .ofShell c => c == 0

end Status
end LineShell
