import LineShell.Machine.Program
import LineShell.Machine.Script.Grammar
import LineShell.Text.Lines

/-!
Where the text of a script comes from. It is a string, or a stream that is read piece by piece as the script
goes on, so that a script may still change while it runs. The reader counts lines, can put one token back,
and remembers the documents whose text is still to come.
-/

namespace LineShell.Machine.Script

/-- Why a script cannot be read, and on which line. -/
structure ReadError where
  line : Nat
  message : Bytes
  deriving DecidableEq, Repr

/-- A piece of the text of a script. -/
inductive Token where
  | ending
  | newline
  | operator (text : String)
  | redirect (redirection : Redirection)
  | announce (stream : Nat) (stripsTabs : Bool)
  | keyword (text : String)
  | word (word : Word)

/-- A document whose text is still to come. -/
structure Announced where
  number : Nat
  mark : Bytes
  isFixed : Bool
  stripsTabs : Bool
  deriving DecidableEq, Repr

/-- The text of a script, as far as it is not yet read, and what the reader remembers. -/
structure Input where
  unread : Bytes
  source : Option Nat := none
  isOver : Bool := false
  line : Nat := 1
  pushed : Option Token := none
  announced : List Announced := []
  documents : List (Nat × Document) := []
  nextDocument : Nat := 0
  aliases : List (Bytes × Bytes) := []
  openAliases : List (Bytes × Nat) := []
  blankAliases : List Nat := []
  seen : Bytes := []

/-- Reading a script. -/
abbrev Parse := ExceptT ReadError (StateT Input Work)

namespace Parse

/-- Makes a call. -/
def call (c : Call) : Parse c.Answer :=
  ExceptT.lift (fun s => Work.call c >>= fun a => pure (a, s) : StateT Input Work c.Answer)

/-- Refuses the script. -/
def refuse {α : Type} (message : Bytes) : Parse α := do
  throw ⟨(← get).line, Utf8.encode "Syntax error: " ++ message⟩

/-- Refuses the script with a text. -/
def refuseText {α : Type} (message : String) : Parse α := refuse (Utf8.encode message)

/-- How much of a stream is read at a time. -/
def pieceSize : Nat := 8192

/-- Sees to it that so many bytes can be looked at, unless there are fewer. -/
def need : Nat → Parse Unit
  | 0 => pure ()
  | n + 1 => do
    need n
    let s ← get
    if (s.unread.drop n).isEmpty ∧ !s.isOver then
      match s.source with
      | none => set { s with isOver := true }
      | some stream =>
        match ← call (.read stream pieceSize) with
        | .ok (b :: bs) => set { s with unread := s.unread ++ (b :: bs).filter (· ≠ 0) }
        | _ => set { s with isOver := true }

/-- The next byte, which stays unread. -/
def peek : Parse (Option UInt8) := do
  if (← get).unread.isEmpty then need 1
  pure (← get).unread.head?

/-- Goes past the next byte. -/
def skip : Parse Unit := modify fun s =>
  match s.unread with
  | [] => s
  | b :: bs => { s with
      unread := bs
      line := if b = Lines.newline then s.line + 1 else s.line
      seen := b :: s.seen }

/-- Takes the next byte. -/
def take : Parse (Option UInt8) := do
  let b ← peek
  skip
  pure b

/-- The next byte, behind lines that are continued; it stays unread. -/
def peekJoined : Parse (Option UInt8) := go manyLines
where
  /-- More lines than are ever continued. -/
  manyLines : Nat := Nat.pow 2 62
  go : Nat → Parse (Option UInt8)
    | 0 => pure none
    | n + 1 => do
      match ← peek with
      | some 0x5C =>
        need 2
        if (← get).unread[1]? = some Lines.newline then
          skip
          skip
          go n
        else pure (some 0x5C)
      | b => pure b

/-- Goes past the next byte if it is a given one. -/
def accepts (b : UInt8) : Parse Bool := do
  if (← peekJoined) = some b then
    skip
    pure true
  else pure false

/-- Puts a token back. -/
def push (t : Token) : Parse Unit := modify fun s => { s with pushed := some t }

/-- Reads a string as if it stood where the input is. -/
def within {α : Type} (text : Bytes) (line : Nat) (parse : Parse α) : Parse α := do
  let outer ← get
  set { outer with unread := text, source := none, isOver := false, line, pushed := none, announced := [], openAliases := [], blankAliases := [] }
  let result ← parse
  modify fun inner => { outer with documents := inner.documents, nextDocument := inner.nextDocument }
  pure result

end Parse
end LineShell.Machine.Script
