import LineShell.Toml.Value

/-!
A complaint about a place in a document: its line and column, the line itself, and a mark under the
place. Lines and columns count from one, and columns count characters.
-/

namespace LineShell.Toml

/-- The number of the line that a character stands on, counted from zero, and the number of characters
before it on that line. -/
def positionOf (text : List Char) (offset : Nat) : Nat × Nat :=
  let before := text.take offset
  (before.count '\n', (before.reverse.takeWhile (· ≠ '\n')).length)

/-- The bytes that characters take. -/
def sizeOf (cs : List Char) : Nat := (cs.map Char.utf8Size).foldl (· + ·) 0

/-- A complaint about what stands at a place. The mark has a sign for each byte of it, but no more than
the line has bytes. -/
def excerpt (text : String) (span : Span) (message : String) : String :=
  let cs := text.toList
  let (line, column) := positionOf cs span.start
  let content := (cs.drop (span.start - column)).takeWhile (· ≠ '\n')
  let size := sizeOf ((cs.drop span.start).take (span.stop - span.start))
  let number := s!"{line + 1}"
  let margin := String.ofList (List.replicate (number.length + 1) ' ') ++ "|"
  let mark := String.ofList
    (List.replicate (column + 1) ' ' ++ List.replicate (max 1 (min size (sizeOf content))) '^')
  s!"TOML parse error at line {line + 1}, column {column + 1}\n{margin}\n" ++
    s!"{number} | {String.ofList content}\n{margin}{mark}\n{message}\n"

end LineShell.Toml
