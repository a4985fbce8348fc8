/-!
UTF-8 read byte by byte. A reader holds what it still expects of an unfinished character; a byte that
does not continue it ends an *invalid subpart*, and the byte itself is read afresh. So each maximal
piece of bad input becomes exactly one replacement character, and an ASCII byte always stands for
itself, whatever came before it.
-/

namespace LineShell

/-- A string of bytes, as files, pipes and file names hold it. -/
abbrev Bytes := List UInt8

namespace Utf8

/-- The character shown in place of each invalid subpart. -/
def replacement : Char := '\uFFFD'

/-- The bytes of a text. -/
def encode (s : String) : Bytes := s.toList.flatMap String.utf8EncodeChar

/-- An unfinished character: the range that its next byte must lie in, how many bytes follow that
one, and the bits read so far. -/
structure Pending where
  low : UInt8
  high : UInt8
  after : Nat
  bits : Nat
  deriving DecidableEq, Repr

/-- The pieces that reading gives: a character, or an invalid subpart (`none`). -/
abbrev Piece := Option Char

/-- A byte read where a character may begin. -/
def start (b : UInt8) : List Piece × Option Pending :=
  if b < 0x80 then ([some (Char.ofNat b.toNat)], none)
  else if 0xC2 ≤ b ∧ b ≤ 0xDF then ([], some ⟨0x80, 0xBF, 0, b.toNat - 0xC0⟩)
  else if b = 0xE0 then ([], some ⟨0xA0, 0xBF, 1, 0⟩)
  else if b = 0xED then ([], some ⟨0x80, 0x9F, 1, 0xD⟩)
  else if 0xE1 ≤ b ∧ b ≤ 0xEF then ([], some ⟨0x80, 0xBF, 1, b.toNat - 0xE0⟩)
  else if b = 0xF0 then ([], some ⟨0x90, 0xBF, 2, 0⟩)
  else if 0xF1 ≤ b ∧ b ≤ 0xF3 then ([], some ⟨0x80, 0xBF, 2, b.toNat - 0xF0⟩)
  else if b = 0xF4 then ([], some ⟨0x80, 0x8F, 2, 4⟩)
  else ([none], none)

/-- One byte more. -/
def feed : Option Pending → UInt8 → List Piece × Option Pending
  | none, b => start b
  | some p, b =>
    if p.low ≤ b ∧ b ≤ p.high then
      let bits := p.bits * 64 + (b.toNat - 0x80)
      match p.after with
      | 0 => ([some (Char.ofNat bits)], none)
      | n + 1 => ([], some ⟨0x80, 0xBF, n, bits⟩)
    else (none :: (start b).1, (start b).2)

/-- The pieces of `bs`, read from a given state; a character cut off at the end is invalid. -/
def piecesFrom : Option Pending → Bytes → List Piece
  | none, [] => []
  | some _, [] => [none]
  | p, b :: bs => (feed p b).1 ++ piecesFrom (feed p b).2 bs

/-- The characters and invalid subparts of `bs`, in order. -/
def pieces (bs : Bytes) : List Piece := piecesFrom none bs

/-- Reads any bytes, with one replacement character for each invalid subpart. -/
def decodeLossy (bs : Bytes) : String :=
  String.ofList ((pieces bs).map (·.getD replacement))

/-- Reads bytes that are a text, and refuses all others. -/
def decode? (bs : Bytes) : Option String :=
  ((pieces bs).mapM id).map String.ofList

end Utf8
end LineShell
