import LineShell.Machine.Program
import LineShell.Text.Lines

/-!
The work of a tool. It prints to its output, which is written in blocks and at the end, complains on its
error output, which is written at once, and reads files. What it has printed is written before it complains,
so that the order of both is kept. A tool ends with an exit code; a failure to write shows in it.
-/

namespace LineShell.Machine

/-- How a program is called. -/
structure Invoked where
  name : Bytes
  args : List Bytes
  environment : Environment := []
  failureCode : Nat := 1
  usage : String := ""
  lineBuffered : Bool := false
  deriving Repr

/-- What has been printed and is not yet written, the last piece first, whether writing has failed, and what has
been read of the answers to questions and is not yet used. -/
structure Pending where
  pieces : List Bytes := []
  size : Nat := 0
  failure : Option Errno := none
  answers : Bytes := []
  deriving Repr

/-- The work of a tool. -/
abbrev Job := ReaderT Invoked (StateT Pending Work)

/-- More rounds than any loop makes. -/
def manyRounds : Nat := Nat.pow 2 62

/-- Repeats a piece of work until it says that it is done. -/
def repeatWork {m : Type → Type} [Monad m] {σ α : Type} (stuck : m α) (body : σ → m (σ ⊕ α)) :
    Nat → σ → m α
  | 0, _ => stuck
  | n + 1, s => do
    match ← body s with
    | .inl s => repeatWork stuck body n s
    | .inr a => pure a

namespace Job

/-- Makes a call. -/
def call (c : Call) : Job c.Answer := fun _ s => Work.call c >>= fun a => pure (a, s)

/-- A job that is never done. -/
def forever {α : Type} : Job α := fun _ _ => Work.forever

/-- Repeats a job until it is done. -/
def loop {σ α : Type} (start : σ) (body : σ → Job (σ ⊕ α)) : Job α :=
  repeatWork forever body manyRounds start

/-- The name that the program is called by. -/
def name : Job Bytes := do pure (← read).name

/-- The arguments of the program. -/
def args : Job (List Bytes) := do pure (← read).args

/-- The value of a variable. -/
def variableValue (name : String) : Job (Option Bytes) := do
  pure ((← read).environment.lookup (Utf8.encode name))

/-! ### Output -/

/-- The streams of a program. -/
def input : Nat := 0
def output : Nat := 1
def errors : Nat := 2

/-- Writes bytes to a stream at once. -/
def writeTo (stream : Nat) (bytes : Bytes) : Job (Except Errno Unit) :=
  if bytes = [] then pure (.ok ()) else call (.write stream bytes)

/-- Output is written in pieces of so many bytes. -/
def blockSize : Nat := 4096

/-- Writes printed bytes; a failure is remembered. -/
def writeOut (bytes : Bytes) : Job Unit := do
  match ← writeTo output bytes with
  | .ok () => pure ()
  | .error e => modify fun s => { s with failure := some e }

/-- Writes what has been printed. -/
def flush : Job Unit := do
  let s ← get
  if s.size ≠ 0 then
    set { s with pieces := [], size := 0 }
    writeOut s.pieces.reverse.flatten

/-- Prints bytes. Whole blocks are written. -/
def print (bytes : Bytes) : Job Unit := do
  let s ← get
  let size := s.size + bytes.length
  let s := { s with pieces := bytes :: s.pieces, size }
  if size < blockSize ∧ !((← read).lineBuffered && bytes.getLast? == some Lines.newline) then set s
  else if (← read).lineBuffered then
    set s
    flush
  else
    let all := s.pieces.reverse.flatten
    let whole := size / blockSize * blockSize
    set { s with pieces := [all.drop whole], size := size - whole }
    writeOut (all.take whole)

/-- Prints a text. -/
def printText (text : String) : Job Unit := print (Utf8.encode text)

/-- Prints a line. -/
def printLine (bytes : Bytes) : Job Unit := print (bytes ++ [Lines.newline])

/-- Writes bytes to the error output, after what has been printed. -/
def writeError (bytes : Bytes) : Job Unit := do
  flush
  let _ ← writeTo errors bytes

/-- Complains, with the name of the program in front. -/
def complain (message : Bytes) : Job Unit := do
  writeError ((← name) ++ Utf8.encode ": " ++ message ++ [Lines.newline])

/-- Complains with a text. -/
def complainText (message : String) : Job Unit := complain (Utf8.encode message)

/-- The text of an error number, behind a colon. -/
def because (e : Errno) : Bytes := Utf8.encode (": " ++ e.text)

/-- Complains about a failed call. -/
def complainOf (message : Bytes) (e : Errno) : Job Unit := complain (message ++ because e)

/-- Ends the program with a code, after what has been printed is written. A failure that is met only now is
shown with its reason. -/
def exit {α : Type} (code : Nat) : Job α := do
  let before := (← get).failure
  modify fun s => { s with failure := none }
  flush
  let reason : Option Bytes := match (← get).failure with
    | some e => some (because e)
    | none => before.map fun _ => []
  match reason with
  | none => fun _ _ => Work.exit code
  | some reason =>
    let _ ← writeTo errors ((← name) ++ Utf8.encode ": write error" ++ reason ++ [Lines.newline])
    let code := (← read).failureCode
    fun _ _ => Work.exit code

/-- Refers to the help that the program has, behind a line about its usage if it has one. -/
def hint : Job Unit := do
  writeError (Utf8.encode (← read).usage ++ Utf8.encode "Try '" ++ (← name) ++ Utf8.encode " --help' for more information.\n")

/-- Complains about how the program is called, and ends it. -/
def refuse {α : Type} (message : Bytes) : Job α := do
  complain message
  hint
  exit (← read).failureCode

/-- Complains and ends the program. -/
def fail {α : Type} (message : Bytes) : Job α := do
  complain message
  exit (← read).failureCode

/-- Complains with a text and ends the program. -/
def failText {α : Type} (message : String) : Job α := fail (Utf8.encode message)

/-- Complains about how the program is called with a text, and ends it. -/
def refuseText {α : Type} (message : String) : Job α := refuse (Utf8.encode message)

/-- Complains about a failed call and ends the program. -/
def failOf {α : Type} (message : Bytes) (e : Errno) : Job α := fail (message ++ because e)

/-- Complains about a failed call and ends the program, whatever is printed and not yet written. -/
def giveUp {α : Type} (message : Bytes) (e : Errno) : Job α := do
  set ({} : Pending)
  failOf message e

/-- Prints bytes; a failure to write ends the program. -/
def printStrictly (bytes : Bytes) : Job Unit := do
  print bytes
  match (← get).failure with
  | none => pure ()
  | some e => giveUp (Utf8.encode "write error") e

/-! ### Input -/

/-- How much is read at a time. -/
def chunkSize : Nat := 65536

/-- Reads a stream to its end. -/
def readAll (stream : Nat) : Job (Except Errno Bytes) :=
  loop [] fun (chunks : List Bytes) => do
    match ← call (.read stream chunkSize) with
    | .error e => pure (.inr (.error e))
    | .ok [] => pure (.inr (.ok chunks.reverse.flatten))
    | .ok chunk => pure (.inl (chunk :: chunks))

/-- Goes through a stream in chunks until it ends, cannot be read, or is not wanted any more. -/
def forChunks {σ : Type} (stream size : Nat) (start : σ) (body : σ → Bytes → Job (σ × Bool)) :
    Job (σ × Option Errno) :=
  loop start fun s => do
    match ← call (.read stream size) with
    | .error e => pure (.inr (s, some e))
    | .ok [] => pure (.inr (s, none))
    | .ok chunk =>
      let (s, more) ← body s chunk
      pure (if more then .inl s else .inr (s, none))

/-- A line without its newline, and whether it had one. -/
structure Line where
  bytes : Bytes
  isComplete : Bool := true
  deriving DecidableEq, Repr

/-- Cuts a chunk behind a line that is not yet complete into lines; the pieces of what is then not yet
complete are given back too, the last one first. -/
def cutLines (delimiter : UInt8) (unfinished : List Bytes) (chunk : Bytes) : List Bytes × List Bytes :=
  let rec go (current : Bytes) (done : List Bytes) : Bytes → List Bytes × Bytes
    | [] => (done.reverse, current.reverse)
    | b :: bs => if b = delimiter then go [] (current.reverse :: done) bs else go (b :: current) done bs
  match go [] [] chunk with
  | ([], rest) => ([], if rest = [] then unfinished else rest :: unfinished)
  | (first :: lines, rest) =>
    ((if unfinished = [] then first else (first :: unfinished).reverse.flatten) :: lines,
      if rest = [] then [] else [rest])

/-- Goes through the lines of a stream, those that have been read at one time together. -/
def forLineGroups {σ : Type} (stream : Nat) (delimiter : UInt8) (start : σ)
    (body : σ → List Line → Job (σ × Bool)) : Job (σ × Option Errno) := do
  let ((s, unfinished, more), failure) ← forChunks stream chunkSize (start, ([] : List Bytes), true)
    fun (s, unfinished, _) chunk => do
      let (lines, unfinished) := cutLines delimiter unfinished chunk
      if lines = [] then pure ((s, unfinished, true), true)
      else
        let (s, more) ← body s (lines.map fun l => ⟨l, true⟩)
        pure ((s, unfinished, more), more)
  if unfinished = [] ∨ !more ∨ failure.isSome then pure (s, failure)
  else
    let (s, _) ← body s [⟨unfinished.reverse.flatten, false⟩]
    pure (s, none)

/-- Opens a file for reading. -/
def openToRead (path : Bytes) : Job (Except Errno Nat) := call (.openFile ⟨path⟩ { reads := true })

/-- Closes a stream. -/
def close (stream : Nat) : Job Unit := do
  let _ ← call (.close stream)

/-- The name that stands for the input. -/
def dash : Bytes := [0x2D]

/-- Opens an operand, a dash being the input; the stream is closed behind its use. -/
def withOperand {α : Type} (operand : Bytes) (absent : Errno → Job α) (use : Nat → Job α) : Job α := do
  if operand = dash then use input
  else
    match ← openToRead operand with
    | .error e => absent e
    | .ok stream =>
      let result ← use stream
      close stream
      pure result

/-- Does something with each operand; the exit code is the greatest of all. -/
def forEach (operands : List Bytes) (body : Bytes → Job Nat) : Job Nat :=
  operands.foldlM (fun code operand => do pure (max code (← body operand))) 0

/-- The program that a job is, when it is called in some way. -/
def program (job : Job Nat) (how : Invoked) : Program :=
  (do let code ← job; exit code : Job Nat) how {} fun (code, _) => .ended (.exited code)

end Job
end LineShell.Machine
