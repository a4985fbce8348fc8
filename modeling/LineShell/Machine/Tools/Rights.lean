import LineShell.Machine.Program
import LineShell.Machine.Printing.Numeral

/-!
Rights of entries: how they are shown, and how they are asked for. A text asks for rights by an octal number,
or by clauses that add some, take some away, or say which there are to be, for all or for some of those who may
have them.
-/

namespace LineShell.Machine

namespace Rights

/-- All rights that an entry can have. -/
def all : Nat := 0o7777

/-- The bits of the first number that are not in the second. -/
def without (a b : Nat) : Nat := a - (a &&& b)

/-- The bit is set. -/
def holds (mode bit : Nat) : Bool := mode &&& bit != 0

/-- The letters for the rights of an entry. -/
def text (mode : Nat) : String :=
  let three (shift special : Nat) (withRun withoutRun : Char) : List Char :=
    let bits := mode >>> shift
    [if holds bits 4 then 'r' else '-', if holds bits 2 then 'w' else '-',
      match holds mode special, holds bits 1 with
      | true, true => withRun
      | true, false => withoutRun
      | false, true => 'x'
      | false, false => '-']
  String.ofList (three 6 0o4000 's' 'S' ++ three 3 0o2000 's' 'S' ++ three 0 0o1000 't' 'T')

/-- The letter for what an entry is. -/
def kindLetter : EntryKind → Char
  | .directory => 'd'
  | .file => '-'
  | .link => 'l'
  | .device => 'c'
  | .pipe => 'p'

/-- The rights in at least four octal digits. -/
def octal (mode : Nat) : String :=
  let ds := Nat.toDigits 8 mode
  String.ofList (List.replicate (4 - ds.length) '0' ++ ds)

/-- What a clause does with its rights. -/
inductive Operation where
  | assign
  | add
  | remove
  deriving DecidableEq, Repr

/-- Which rights a clause is about: the given ones, those that some already have, or also the one to run what
somebody can run or enter. -/
inductive Amendment where
  | plain
  | copies
  | runsIfAny
  deriving DecidableEq, Repr

/-- One step of a change of rights. Nobody is affected in particular if `affected` is zero; `mentioned` says
which rights the step names. -/
structure Step where
  operation : Operation
  amendment : Amendment := .plain
  affected : Nat
  value : Nat
  mentioned : Nat
  deriving DecidableEq, Repr

/-- A change of rights. -/
abbrev Change := List Step

/-- The operation that a byte stands for. -/
def operation? (b : UInt8) : Option Operation :=
  [(0x3D, .assign), (0x2B, .add), (0x2D, .remove)].lookup b

/-- Those that letters in front of a clause name. -/
def affected : Bytes → Nat → Nat × Bytes
  | 0x75 :: bs, a => affected bs (a ||| 0o4700)
  | 0x67 :: bs, a => affected bs (a ||| 0o2070)
  | 0x6F :: bs, a => affected bs (a ||| 0o1007)
  | 0x61 :: bs, a => affected bs (a ||| all)
  | bs, a => (a, bs)

/-- The rights that letters name, and whether running is among them for what can be run already. -/
def values : Bytes → Nat → Bool → Nat × Bool × Bytes
  | 0x72 :: bs, v, x => values bs (v ||| 0o444) x
  | 0x77 :: bs, v, x => values bs (v ||| 0o222) x
  | 0x78 :: bs, v, x => values bs (v ||| 0o111) x
  | 0x58 :: bs, v, _ => values bs v true
  | 0x73 :: bs, v, x => values bs (v ||| 0o6000) x
  | 0x74 :: bs, v, x => values bs (v ||| 0o1000) x
  | bs, v, x => (v, x, bs)

/-- The bytes are at the end of a clause. -/
def isAtEnd (bs : Bytes) : Bool := bs.isEmpty || bs.head? == some 0x2C

/-- Reads what stands behind the operation of a step. -/
def readStep? (affected : Nat) (operation : Operation) (bs : Bytes) : Option (Step × Bytes) :=
  let step (amendment : Amendment) (value : Nat) : Step :=
    { operation, amendment, affected, value
      mentioned := if affected = 0 then value else affected &&& value }
  match Numeral.digits? 8 bs with
  | some (mode, rest) =>
    if all < mode ∨ affected ≠ 0 ∨ !isAtEnd rest then none
    else some ({ operation, affected := all, value := mode, mentioned := all }, rest)
  | none =>
    match bs with
    | 0x75 :: rest => some (step .copies 0o700, rest)
    | 0x67 :: rest => some (step .copies 0o070, rest)
    | 0x6F :: rest => some (step .copies 0o007, rest)
    | bs =>
      let (value, runs, rest) := values bs 0 false
      some (step (if runs then .runsIfAny else .plain) value, rest)

/-- Reads the steps of one clause. Every step uses up at least one byte. -/
def readSteps? (affected : Nat) : Nat → Bytes → Option (Change × Bytes)
  | 0, _ => none
  | _, [] => none
  | n + 1, b :: bs => do
    let operation ← operation? b
    let (step, rest) ← readStep? affected operation bs
    if rest.head?.any fun b => (operation? b).isSome then
      let (steps, rest) ← readSteps? affected n rest
      pure (step :: steps, rest)
    else pure ([step], rest)

/-- Reads clauses with commas between them. -/
def readClauses? : Nat → Bytes → Option Change
  | 0, _ => none
  | n + 1, bs => do
    let (who, bs) := affected bs 0
    let (steps, rest) ← readSteps? who (bs.length + 1) bs
    match rest with
    | [] => pure steps
    | 0x2C :: rest => do pure (steps ++ (← readClauses? n rest))
    | _ => none

/-- Reads a change of rights. A short number leaves the bits alone that have to do with whose rights
a program runs with, where an entry is a directory. -/
def read? (text : Bytes) : Option Change :=
  match Numeral.digits? 8 text with
  | some (mode, rest) =>
    if rest ≠ [] ∨ all < mode then none
    else some [{ operation := .assign, affected := all, value := mode
                 mentioned := if text.length < 5 then (mode &&& 0o6000) ||| 0o1777 else all }]
  | none => readClauses? (text.length + 1) text

/-- The rights after one step. Where nobody in particular is affected, the mask holds rights back. -/
def Step.apply (s : Step) (isDirectory : Bool) (mask mode : Nat) : Nat :=
  let kept := if isDirectory then without 0o6000 s.mentioned else 0
  let spread (value bits : Nat) : Nat := if holds value bits then bits else 0
  let value := match s.amendment with
    | .plain => s.value
    | .copies =>
      let value := s.value &&& mode
      value ||| spread value 0o444 ||| spread value 0o222 ||| spread value 0o111
    | .runsIfAny => if isDirectory || holds mode 0o111 then s.value ||| 0o111 else s.value
  let reached := if s.affected = 0 then without all mask else s.affected
  let value := without (value &&& reached) kept
  match s.operation with
  | .assign =>
    let preserved := (if s.affected = 0 then 0 else without all s.affected) ||| kept
    (mode &&& preserved) ||| value
  | .add => mode ||| value
  | .remove => without mode value

/-- The rights after a change. -/
def Change.apply (c : Change) (isDirectory : Bool) (mask mode : Nat) : Nat :=
  c.foldl (fun mode s => s.apply isDirectory mask mode) (mode &&& all)

end Rights
end LineShell.Machine
