import LineShell.Errno
import LineShell.Machine.FileTree
import LineShell.Status

/-!
What a process does, seen from its machine: it makes one call after the other, and goes on with the answer
to each, until it ends. A call may take long: reading waits for something to read, writing for somebody who
reads, and waiting for a process that ends.

Programs are written as `Work`: the work that is left to do is handed over to what is done now. So a
program may stop anywhere, and what is done first costs nothing later.
-/

namespace LineShell.Machine

/-- How a process ended. -/
inductive Ending where
  | exited (code : Nat)
  | signalled (signal : Nat)
  deriving DecidableEq, Repr

/-- The word that waiting for an ended process gives. -/
def Ending.waitStatus : Ending → WaitStatus
  | .exited code => .exited (code % 256)
  | .signalled signal => .signalled signal

/-- The number by which a shell script knows how a process ended. -/
def Ending.code : Ending → Nat
  | .exited code => code % 256
  | .signalled signal => 128 + signal

/-- The variables of an environment: their names and their values. -/
abbrev Environment := List (Bytes × Bytes)

/-- How a file is opened. -/
structure OpenMode where
  reads : Bool := false
  writes : Bool := false
  creates : Bool := false
  truncates : Bool := false
  appends : Bool := false
  isExclusive : Bool := false
  rights : Nat := 0o666
  deriving DecidableEq, Repr

/-- Where an offset is counted from. -/
inductive Origin where
  | start
  | here
  | stop
  deriving DecidableEq, Repr

/-- What kind of entry something is. -/
inductive EntryKind where
  | directory
  | file
  | link
  | device
  | pipe
  deriving DecidableEq, Repr

/-- What is the same for all names of an entry: its location, or the number of its body. -/
inductive Identity where
  | location (location : Location)
  | body (number : Nat)
  | device (device : Device)
  | pipe (number : Nat)
  | console (isErr : Bool)
  deriving DecidableEq, Repr

/-- What is known of an entry. -/
structure EntryStatus where
  kind : EntryKind
  identity : Identity
  mode : Nat
  size : Nat := 0
  links : Nat := 1
  time : Nat := beginning
  deriving DecidableEq, Repr

/-- What becomes of a signal: it does what it always does, nothing, or it is kept for the program. -/
inductive Disposition where
  | standard
  | ignored
  | caught
  deriving DecidableEq, Repr

/-- One call of a process to its machine. -/
inductive Call where
  | read (stream count : Nat)
  | write (stream : Nat) (bytes : Bytes)
  | seek (stream : Nat) (origin : Origin) (offset : Int)
  | cut (stream size : Nat)
  | openFile (path : Path) (mode : OpenMode)
  | close (stream : Nat)
  | duplicate (stream goal : Nat)
  | duplicateAbove (stream least : Nat)
  | makePipe
  | examine (path : Path) (follows : Bool)
  | examineStream (stream : Nat)
  | list (path : Path)
  | makeDirectory (path : Path) (mode : Nat)
  | unlink (path : Path)
  | removeDirectory (path : Path)
  | rename (source goal : Path)
  | link (source goal : Path)
  | makeLink (target : Bytes) (path : Path)
  | readLink (path : Path)
  | changeMode (path : Path) (mode : Nat)
  | changeTime (path : Path) (time : Option Nat)
  | resolve (path : Path)
  | changeDirectory (path : Path)
  | directory
  | setMask (mask : Nat)
  | execute (path : Path) (args : List Bytes) (environment : Environment)
  | wait (process : Option Nat)
  | signal (process signal : Nat)
  | dispose (signal : Nat) (disposition : Disposition)
  | takeSignals
  | sleep (nanoseconds : Nat)
  | clock
  | self
  | parent
  deriving DecidableEq, Repr

namespace Call

/-- What a call is answered with. -/
def Answer : Call → Type
  | .read _ _ => Except Errno Bytes
  | .write _ _ => Except Errno Unit
  | .seek _ _ _ => Except Errno Nat
  | .cut _ _ => Except Errno Unit
  | .openFile _ _ => Except Errno Nat
  | .close _ => Except Errno Unit
  | .duplicate _ _ => Except Errno Unit
  | .duplicateAbove _ _ => Except Errno Nat
  | .makePipe => Nat × Nat
  | .examine _ _ => Except Errno EntryStatus
  | .examineStream _ => Except Errno EntryStatus
  | .list _ => Except Errno (List Name)
  | .makeDirectory _ _ => Except Errno Unit
  | .unlink _ => Except Errno Unit
  | .removeDirectory _ => Except Errno Unit
  | .rename _ _ => Except Errno Unit
  | .link _ _ => Except Errno Unit
  | .makeLink _ _ => Except Errno Unit
  | .readLink _ => Except Errno Bytes
  | .changeMode _ _ => Except Errno Unit
  | .changeTime _ _ => Except Errno Unit
  | .resolve _ => Except Errno Bytes
  | .changeDirectory _ => Except Errno Unit
  | .directory => Except Errno Bytes
  | .setMask _ => Nat
  | .execute _ _ _ => Errno
  | .wait _ => Except Errno (Nat × Ending)
  | .signal _ _ => Except Errno Unit
  | .dispose _ _ => Disposition
  | .takeSignals => List Nat
  | .sleep _ => Unit
  | .clock => Nat
  | .self => Nat
  | .parent => Nat

end Call

/-- What a process does from now on. Besides making calls it may start a process that does something
else, whose number it goes on with. -/
inductive Program where
  | ended (ending : Ending)
  | forever
  | call (call : Call) (next : call.Answer → Program)
  | fork (child : Program) (next : Nat → Program)

/-- A piece of work in a program: it hands its result over to what is left to do. -/
def Work (α : Type) : Type := (α → Program) → Program

namespace Work

instance : Monad Work where
  pure a := fun k => k a
  bind x f := fun k => x fun a => f a k

/-- Makes one call. -/
def call (c : Call) : Work c.Answer := fun k => .call c k

/-- Ends the process. -/
def leave {α : Type} (ending : Ending) : Work α := fun _ => .ended ending

/-- Ends the process with a code. -/
def exit {α : Type} (code : Nat) : Work α := leave (.exited code)

/-- Work that is never done. -/
def forever {α : Type} : Work α := fun _ => .forever

/-- The program that does a piece of work and ends with the code that this gives. -/
def program (work : Work Nat) : Program := work fun code => .ended (.exited code)

/-- Starts a process for a piece of work. -/
def fork (child : Work Nat) : Work Nat := fun k => .fork child.program k

end Work
end LineShell.Machine
