import LineShell.Text.Utf8

/-!
Laying pieces out on lines of a width: in columns, filled column by column or row by row, or with commas
between them. There are as many columns as fit, each as wide as its widest piece and a gap.
-/

namespace LineShell.Machine.Layout

/-- A piece, with its width. -/
structure Piece where
  width : Nat
  bytes : Bytes
  deriving Repr

/-- The least width of a column. -/
def leastWidth : Nat := 3

/-- The gap behind a column that is not the last one. -/
def gap : Nat := 2

/-- The column that a piece stands in, if there are so many columns. -/
def columnOf (byColumn : Bool) (total columns i : Nat) : Nat :=
  if byColumn then i / ((total + columns - 1) / columns) else i % columns

/-- The widths of so many columns. -/
def widths (byColumn : Bool) (pieces : List Piece) (columns : Nat) : Array Nat :=
  pieces.zipIdx.foldl (fun (ws : Array Nat) (p, i) =>
    let c := columnOf byColumn pieces.length columns i
    let width := p.width + if c + 1 = columns then 0 else gap
    ws.modify c (max width)) (Array.replicate columns leastWidth)

/-- So many columns fit on a line, or none of them is wider than it must be. -/
def fits (line columns : Nat) (ws : Array Nat) : Bool :=
  let sum := ws.foldl (· + ·) 0
  sum == columns * leastWidth || sum < line

/-- How many columns there are at most, and the widths of these. -/
def choose (byColumn : Bool) (line : Nat) (pieces : List Piece) : Nat → Array Nat
  | 0 => #[]
  | 1 => widths byColumn pieces 1
  | columns + 1 =>
    let ws := widths byColumn pieces (columns + 1)
    if fits line (columns + 1) ws then ws else choose byColumn line pieces columns

/-- Goes from one place of a line to another, with tabs where they get there. -/
def indent (tab : Nat) : Nat → Nat → Nat → Bytes
  | 0, _, _ => []
  | n + 1, here, goal =>
    if goal ≤ here then []
    else if tab ≠ 0 ∧ (here + 1) / tab < goal / tab then 0x09 :: indent tab n (here + tab - here % tab) goal
    else 0x20 :: indent tab n (here + 1) goal

/-- One row of pieces in columns, from a place on. -/
def row (tab : Nat) : Nat → List (Nat × Piece) → Bytes
  | _, [] => []
  | _, [(_, p)] => p.bytes
  | here, (width, p) :: more =>
    p.bytes ++ indent tab width (here + p.width) (here + width) ++ row tab (here + width) more

/-- Pieces in columns. -/
def inColumns (byColumn : Bool) (line tab : Nat) (ending : UInt8) (pieces : List Piece) : Bytes :=
  let total := pieces.length
  let most := line / leastWidth + if line % leastWidth = 0 then 0 else 1
  let ws := choose byColumn line pieces (if 0 < most ∧ most < total then most else total)
  let columns := max 1 ws.size
  let rows := (total + columns - 1) / columns
  let all := pieces.toArray
  let place (r c : Nat) : Nat := if byColumn then c * rows + r else r * columns + c
  (List.range rows).flatMap fun r =>
    row tab 0 ((List.range columns).filterMap fun c =>
      (all[place r c]?).map fun p => (ws.getD c leastWidth, p)) ++ [ending]

/-- Pieces with a mark between them. A line of width zero never ends. -/
def withSeparator (mark : UInt8) (line : Nat) (ending : UInt8) (pieces : List Piece) : Bytes :=
  let rec go (here : Nat) : List Piece → Bytes
    | [] => []
    | p :: more =>
      if line = 0 ∨ here + p.width + gap < line then [mark, 0x20] ++ p.bytes ++ go (here + p.width + gap) more
      else [mark, ending] ++ p.bytes ++ go p.width more
  match pieces with
  | [] => []
  | p :: more => p.bytes ++ go p.width more ++ [ending]

end LineShell.Machine.Layout
