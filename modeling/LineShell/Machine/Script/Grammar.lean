import LineShell.Text.Utf8

/-!
Scripts as they are read: words that still hold parameters, commands and numbers, redirections, and commands
that are joined, grouped and repeated.
-/

namespace LineShell.Machine.Script

/-- What a file is opened for by a redirection. -/
inductive FileUse where
  | read
  | write
  | overwrite
  | append
  | readWrite
  deriving DecidableEq, Repr

mutual

/-- A piece of a word: bytes, the value of a parameter, the output of a command, or the value of an
expression. -/
inductive WordPart where
  | text (isQuoted : Bool) (bytes : Bytes)
  | parameter (isQuoted : Bool) (name : Bytes) (use : ParameterUse)
  | output (isQuoted : Bool) (body : Command)
  | number (isQuoted : Bool) (expression : List WordPart)

/-- What is made of a parameter. Where there is another word for it, `isNullToo` says that an empty value
counts as none. -/
inductive ParameterUse where
  | value
  | length
  | malformed
  | orElse (isNullToo : Bool) (word : List WordPart)
  | orAssign (isNullToo : Bool) (word : List WordPart)
  | orComplain (isNullToo : Bool) (word : List WordPart)
  | andThen (isNullToo : Bool) (word : List WordPart)
  | without (isSuffix isLongest : Bool) (pattern : List WordPart)

/-- A stream of a command, by its number, and what it is redirected to. -/
inductive Redirection where
  | file (stream : Nat) (use : FileUse) (target : List WordPart)
  | stream (stream : Nat) (source : Option Nat)
  | streamOf (stream : Nat) (source : List WordPart)
  | document (stream : Nat) (number : Nat)

/-- A command of a script. -/
inductive Command where
  | nothing
  | simple (line : Nat) (assignments words : List (List WordPart)) (redirections : List Redirection)
  | pipe (commands : List Command) (isBackground : Bool)
  | redirected (line : Nat) (body : Command) (redirections : List Redirection)
  | subshell (line : Nat) (body : Command) (redirections : List Redirection)
  | background (line : Nat) (body : Command) (redirections : List Redirection)
  | both (left right : Command)
  | either (left right : Command)
  | sequence (left right : Command)
  | negation (body : Command)
  | branch (condition yes no : Command)
  | loop (isUntil : Bool) (condition body : Command)
  | each (line : Nat) (name : Bytes) (words : List (List WordPart)) (body : Command)
  | select (line : Nat) (word : List WordPart) (cases : List (List (List WordPart) × Command))
  | define (line : Nat) (name : Bytes) (body : Command)

end

/-- A word of a script. -/
abbrev Word := List WordPart

namespace Word

/-- The bytes of a word that is written without quotes and without anything to be replaced. -/
def plain? : Word → Option Bytes
  | [] => some []
  | .text false bytes :: w => (plain? w).map (bytes ++ ·)
  | _ => none

/-- The word has quotes in it. -/
def isQuoted (w : Word) : Bool :=
  w.any fun part => match part with
    | .text q _ => q
    | _ => false

/-- The bytes of a word in which nothing is replaced. -/
def literal (w : Word) : Bytes :=
  w.flatMap fun part => match part with
    | .text _ bytes => bytes
    | _ => []

end Word

/-- The text of a document that stands in a script: fixed bytes, or a word. -/
inductive Document where
  | fixed (bytes : Bytes)
  | word (word : Word)

/-- A byte that may stand in the name of a variable. -/
def isNameByte (b : UInt8) : Bool :=
  (0x30 ≤ b && b ≤ 0x39) || (0x41 ≤ b && b ≤ 0x5A) || (0x61 ≤ b && b ≤ 0x7A) || b == 0x5F

/-- A decimal digit. -/
def isDigit (b : UInt8) : Bool := 0x30 ≤ b && b ≤ 0x39

/-- A byte that may start the name of a variable. -/
def startsName (b : UInt8) : Bool := isNameByte b && !isDigit b

/-- The bytes can be the name of a variable. -/
def isName (bs : Bytes) : Bool := bs.head?.any startsName && bs.all isNameByte

/-- The name and the value of a word that assigns. -/
def Word.assignment? : Word → Option (Bytes × Word)
  | .text false bytes :: w =>
    let name := bytes.takeWhile isNameByte
    match bytes.drop name.length with
    | 0x3D :: value =>
      if isName name then some (name, if value = [] then w else .text false value :: w) else none
    | _ => none
  | _ => none

end LineShell.Machine.Script
