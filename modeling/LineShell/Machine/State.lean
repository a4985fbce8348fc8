import LineShell.Action
import LineShell.Machine.Lookup
import LineShell.Machine.Program

/-!
The state of a machine: its files, its pipes and processes, the variables and the directory that the shell
was started with, and what has been written to its two streams. Open files are numbered and stay in the
table; the streams of a process are numbers of its own for some of them, and a descriptor of the shell is
the number of one that the shell still holds. The open files zero, one and two are the streams that the
shell was started with.
-/

namespace LineShell

namespace Machine

/-- What an open file leads to. -/
inductive Endpoint where
  | body (number : Nat)
  | directory (location : Location)
  | device (device : Device)
  | pipe (number : Nat)
  | console (channel : Channel)
  deriving DecidableEq, Repr

/-- An open file: reading and writing go on where they stopped, or writing always at the end. -/
structure OpenFile where
  endpoint : Endpoint
  reads : Bool := false
  writes : Bool := false
  appends : Bool := false
  offset : Nat := 0
  deriving DecidableEq, Repr

/-- Who wrote something. -/
inductive Writer where
  | shell
  | program
  deriving DecidableEq, Repr

/-- Something that was written to one of the shell's own two streams. -/
structure Output where
  writer : Writer
  channel : Channel
  bytes : Bytes
  deriving DecidableEq, Repr

/-- What a process is given by the one that starts it: where it is, its streams, the rights that its new
files do not get, and what becomes of the signals that do not do what they always do. -/
structure Setting where
  directory : Location
  streams : List (Nat × Nat) := [(0, 0), (1, 1), (2, 2)]
  mask : Nat := 0o022
  signals : List (Nat × Disposition) := []
  deriving DecidableEq, Repr

/-- A process: what it does next and when, what it was given, and what it has not taken notice of yet. One
that waits tries its next call again when something has happened. -/
structure Process where
  number : Nat
  parent : Nat
  setting : Setting
  program : Program
  time : Nat
  isWaiting : Bool := false
  arrived : List Nat := []

/-- A process that has ended and is not waited for yet. -/
structure EndedProcess where
  number : Nat
  parent : Nat
  ending : Ending
  deriving DecidableEq, Repr

end Machine

open Machine

/-- A machine that the shell runs on. What was written last comes first. -/
structure Machine where
  tree : FileTree
  environment : Environment := []
  directory : Location := []
  isTerminal : Bool := false
  closed : List Channel := []
  files : List (Nat × OpenFile) := [
    (0, { endpoint := .device .null, reads := true }),
    (1, { endpoint := .console .out, writes := true }),
    (2, { endpoint := .console .err, writes := true })]
  held : List Nat := []
  pipes : List (Nat × Bytes) := []
  processes : List Process := []
  ended : List EndedProcess := []
  next : Nat := 3
  nextProcess : Nat := 101
  clock : Nat := beginning + Nat.pow 10 9
  console : List Output := []

namespace Machine

/-- The number of the shell's own process. -/
def shellNumber : Nat := 100

/-- Replaces the value for a key, or adds it. -/
def update {α β : Type} [DecidableEq α] (k : α) (v : β) (xs : List (α × β)) : List (α × β) :=
  (k, v) :: xs.filter (·.1 ≠ k)

/-- Adds an open file; its number is given back. -/
def addFile (m : Machine) (f : OpenFile) : Nat × Machine :=
  (m.next, { m with files := (m.next, f) :: m.files, next := m.next + 1 })

/-- How finely the times of entries are kept, in nanoseconds. -/
def tick : Nat := 4000000

/-- The time of an entry that is changed now. -/
def now (m : Machine) : Nat := m.clock / tick * tick

/-- What the shell has as its own. -/
def shellSetting (m : Machine) : Setting := { directory := m.directory }

/-- Some process, or the shell, can still use the open file. -/
def isOpen (m : Machine) (number : Nat) : Bool :=
  number < 3 || m.held.contains number ||
    m.processes.any fun p => p.setting.streams.any (·.2 == number)

/-- Somebody can still read from the pipe. -/
def hasReader (m : Machine) (pipe : Nat) : Bool :=
  m.files.any fun f => f.2.endpoint == .pipe pipe && f.2.reads && m.isOpen f.1

/-- Somebody can still write to the pipe. -/
def hasWriter (m : Machine) (pipe : Nat) : Bool :=
  m.files.any fun f => f.2.endpoint == .pipe pipe && f.2.writes && m.isOpen f.1

/-- Makes a pipe; the numbers of its end for reading and its end for writing are given back. -/
def addPipe (m : Machine) : (Nat × Nat) × Machine :=
  let m := { m with pipes := (m.next, []) :: m.pipes, next := m.next + 1 }
  let pipe := m.next - 1
  let (r, m) := m.addFile { endpoint := .pipe pipe, reads := true }
  let (w, m) := m.addFile { endpoint := .pipe pipe, writes := true }
  ((r, w), m)

/-- Throws away the open files that nobody can use any more, and the pipes that nobody can read. -/
def forgetClosed (m : Machine) : Machine :=
  let m := { m with files := m.files.filter fun f => m.isOpen f.1 }
  { m with pipes := m.pipes.filter fun p => m.files.any (·.2.endpoint == .pipe p.1) }

end Machine
end LineShell
