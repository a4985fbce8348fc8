import LineShell.Text.Utf8

/-!
Lines. A source of bytes is cut after each newline byte, before it is decoded, so that bad bytes can
neither hide a newline nor make one; a last line needs no newline. A text that is to be shown is cut
the other way, into lines without their ends.
-/

namespace LineShell.Lines

/-- The byte that ends a line. -/
def newline : UInt8 := 0x0A

/-- Puts a byte in front of the first line. -/
def extend (b : UInt8) : List Bytes → List Bytes
  | [] => [[b]]
  | line :: lines => (b :: line) :: lines

/-- The lines of a source, each with the newline that ends it. -/
def split : Bytes → List Bytes
  | [] => []
  | b :: bs => if b = newline then [b] :: split bs else extend b (split bs)

/-- The lines of a source as texts. -/
def decode (bs : Bytes) : List String := (split bs).map Utf8.decodeLossy

/-- The line has its newline, so that it cannot grow. -/
def isComplete (line : Bytes) : Bool := line.getLast? == some newline

/-- A line of a text without its end, a newline or a carriage return and a newline. -/
def withoutEnd (line : List Char) : List Char :=
  match line.reverse with
  | '\n' :: '\r' :: cs => cs.reverse
  | '\n' :: cs => cs.reverse
  | _ => line

/-- The pieces of a text, each up to and including a newline. -/
def splitText : List Char → List (List Char)
  | [] => []
  | c :: cs =>
    if c = '\n' then [c] :: splitText cs
    else match splitText cs with
      | [] => [[c]]
      | line :: lines => (c :: line) :: lines

/-- The lines of a text without their ends. -/
def ofText (s : String) : List String :=
  (splitText s.toList).map fun line => String.ofList (withoutEnd line)

end LineShell.Lines
