import LineShell.Machine.Script.Input
import LineShell.Machine.Script.Pattern
import LineShell.Machine.Signal
import LineShell.Text.ByteOrder

/-!
A shell that runs scripts, as a process: what it remembers from command to command, and how it complains. A
command may stop the shell: because of an error, or because it is to end.
-/

namespace LineShell.Machine.Script

/-- A variable. One without a value may still be marked for programs or as fixed. -/
structure Variable where
  value : Option Bytes := none
  isExported : Bool := false
  isFixed : Bool := false
  deriving DecidableEq, Repr

/-- Commands that are to be left out: the rest of loops or of a function. -/
inductive Skip where
  | none
  | leaveLoops (count : Nat)
  | nextTurn (count : Nat)
  | leaveFunction
  deriving DecidableEq, Repr

/-- Why a shell stops what it is doing. -/
inductive Stop where
  | failed
  | leaves
  deriving DecidableEq, Repr

/-- What a shell remembers. -/
structure Shell where
  title : Bytes
  positional : List Bytes := []
  store : List (Bytes × Variable) := []
  functions : List (Bytes × Command) := []
  aliases : List (Bytes × Bytes) := []
  options : List Char := []
  status : Nat := 0
  outputStatus : Nat := 0
  keptStatus : Option Nat := none
  line : Nat := 0
  commandName : Option Bytes := none
  loops : Nat := 0
  skip : Skip := .none
  traps : List (Nat × Bytes) := []
  arrived : List Nat := []
  number : Nat := 0
  parent : Nat := 0
  lastBackground : Option Nat := none
  jobs : List (Nat × List Nat) := []
  endedJobs : List (Nat × Nat) := []
  documents : List (Nat × Document) := []
  nextDocument : Nat := 0
  frames : List (List (Bytes × Option Variable)) := []
  directory : Bytes := []
  optionIndex : Nat := 1
  optionOffset : Option Nat := none
  traceStream : Nat := 2
  printed : List Bytes := []
  located : List (Bytes × Nat) := []

/-- The work of a shell. -/
abbrev Sh := ExceptT Stop (StateT Shell Work)

/-- How a command is run: whether the shell ends behind it, and whether its failure is taken notice of
elsewhere. -/
structure Manner where
  isLast : Bool := false
  isTested : Bool := false
  deriving DecidableEq, Repr

/-- How commands inside of others are run. The status is given back. -/
abbrev Runner := Command → Manner → Sh Nat

namespace Sh

/-- Does a piece of work that does not hang on the shell. -/
def lift {α : Type} (work : Work α) : Sh α :=
  ExceptT.lift (fun s => work >>= fun a => pure (a, s) : StateT Shell Work α)

/-- Makes a call. -/
def call (c : Call) : Sh c.Answer := lift (Work.call c)

/-- Writes bytes to a stream. -/
def writeTo (stream : Nat) (bytes : Bytes) : Sh (Except Errno Unit) :=
  if bytes = [] then pure (.ok ()) else call (.write stream bytes)

/-- Keeps bytes that a command prints until it is done. -/
def print (bytes : Bytes) : Sh Unit := modify fun s => { s with printed := bytes :: s.printed }

/-- Keeps a line that a command prints. -/
def printLine (bytes : Bytes) : Sh Unit := print (bytes ++ [Lines.newline])

/-- Writes what has been printed, and tells whether this could be done. -/
def flush : Sh Bool := do
  let bytes := (← get).printed.reverse.flatten
  modify fun s => { s with printed := [] }
  match ← writeTo 1 bytes with
  | .ok () => pure true
  | .error _ => pure false

/-- Does something that may stop, and tells what came of it. -/
def attempt {α : Type} (work : Sh α) : Sh (Except Stop α) := ExceptT.lift work.run

/-- Goes on as something has ended. -/
def resume {α : Type} : Except Stop α → Sh α
  | .ok a => pure a
  | .error e => throw e

/-- The option is set. -/
def hasOption (letter : Char) : Sh Bool := do pure ((← get).options.contains letter)

/-- What stands in front of a complaint: the shell, the line, and the command that complains. -/
def place : Sh Bytes := do
  let s ← get
  let command : Bytes := match s.commandName with
    | some name => name ++ Utf8.encode ": "
    | none => []
  pure (s.title ++ Utf8.encode s!": {s.line}: " ++ command)

/-- Complains. -/
def complain (message : Bytes) : Sh Unit := do
  let _ ← writeTo 2 ((← place) ++ message ++ [Lines.newline])

/-- Complains with a text. -/
def complainText (message : String) : Sh Unit := complain (Utf8.encode message)

/-- Sets the status. -/
def setStatus (status : Nat) : Sh Unit := modify fun s => { s with status }

/-- Complains, and stops what is being done. -/
def fail {α : Type} (message : Bytes) : Sh α := do
  complain message
  let _ ← flush
  setStatus 2
  throw .failed

/-- Complains with a text, and stops what is being done. -/
def failText {α : Type} (message : String) : Sh α := fail (Utf8.encode message)

/-- Ends the shell with a status. -/
def leave {α : Type} (status : Nat) : Sh α := do
  setStatus status
  throw .leaves

/-- Work that is never done. -/
def forever {α : Type} : Sh α := lift Work.forever

/-! ### Variables -/

/-- The variable of a name. -/
def variableOf? (name : Bytes) : Sh (Option Variable) := do pure ((← get).store.lookup name)

/-- The value of a variable. -/
def value? (name : Bytes) : Sh (Option Bytes) := do pure ((← variableOf? name).bind Variable.value)

/-- The value of a variable by its name as a text. -/
def valueOf? (name : String) : Sh (Option Bytes) := value? (Utf8.encode name)

/-- Puts a variable in the place of the one that has its name, or behind the others. -/
def putVariable (name : Bytes) (v : Variable) : Sh Unit := modify fun s =>
  if (s.store.lookup name).isSome then
    { s with store := s.store.map fun e => if e.1 = name then (name, v) else e }
  else { s with store := s.store ++ [(name, v)] }

/-- Sets a variable. A fixed one cannot be set. -/
def assign (name value : Bytes) (exports : Bool) : Sh Unit := do
  let old := ((← variableOf? name).getD {})
  if old.isFixed then fail (name ++ Utf8.encode ": is read only")
  else
    let exportsAll ← hasOption 'a'
    putVariable name { old with
      value := some value, isExported := old.isExported || exports || exportsAll }
    if name = Utf8.encode "OPTIND" then
      let index := value.foldl (fun v b => v * 10 + (b.toNat - 0x30)) 0
      modify fun s => { s with optionIndex := max 1 index, optionOffset := none }
    if name = Utf8.encode "PATH" then modify fun s => { s with located := [] }

/-- The bytes at which values are cut into fields, where the shell does not say. -/
def standardSeparators : Bytes := [0x20, 0x09, 0x0A]

/-- The bytes at which values are cut into fields. -/
def separators : Sh Bytes := do pure ((← valueOf? "IFS").getD standardSeparators)

/-- The search path. -/
def searchPath : Sh Bytes := do pure ((← valueOf? "PATH").getD [])

/-- The place of a name among the variables of a program: they are kept in so many lists. -/
def placeOf (name : Bytes) : Nat :=
  ((name.head?.map fun b => b.toNat * 16).getD 0 + (name.map UInt8.toNat).foldl (· + ·) 0) % 39

/-- The environment of a program. -/
def environment : Sh Environment := do
  let exported := (← get).store.filterMap fun (name, v) =>
    if v.isExported then v.value.map fun value => (name, value) else none
  pure ((List.range 39).flatMap fun place => exported.filter fun v => placeOf v.1 == place)

/-! ### Processes -/

/-- Starts a process that goes on with what the shell remembers. -/
def fork (child : Sh Nat) (finish : Shell → Except Stop Nat → Work Nat) : Sh Nat := do
  let s ← get
  lift (Work.fork (do
    let (result, s) ← child.run.run s
    finish s result))

/-- The signals that end a process without a word about it. -/
def quietSignals : List Nat := [2, 13]

/-- Tells what signal has ended a child. -/
def tellEnding : Ending → Sh Unit
  | .exited _ => pure ()
  | .signalled signal => do
    if !quietSignals.contains signal then
      let _ ← writeTo 2 (Utf8.encode (Signal.text signal ++ "\n"))

/-- Remembers the signals that have arrived. -/
def noticeSignals : Sh Unit := do
  let signals : List Nat ← call .takeSignals
  modify fun s => { s with arrived := s.arrived ++ signals }

/-- What a new process of a shell does not have any more: what it did when signals arrived, and the processes
that another one waits for. -/
def becomeChild : Sh Unit := do
  for (signal, action) in (← get).traps do
    if signal ≠ 0 ∧ action ≠ [] then
      let _ : Disposition ← call (.dispose signal .standard)
  modify fun s => { s with traps := s.traps.filter (·.2 == []), jobs := [], endedJobs := [], arrived := [] }

/-- Waits for a child to end. -/
def awaitChild (child : Nat) : Sh Nat := go (Nat.pow 2 62)
where
  go : Nat → Sh Nat
    | 0 => forever
    | n + 1 => do
      match ← call (.wait (some child)) with
      | .ok (_, ending) => do
        tellEnding ending
        pure ending.code
      | .error .eintr => do
        noticeSignals
        go n
      | .error _ => pure 127

end Sh
end LineShell.Machine.Script
