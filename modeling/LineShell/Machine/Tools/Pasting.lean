import LineShell.Machine.Tools.LineSource
import LineShell.Machine.Tools.Options
import LineShell.Machine.Tools.Quoting

/-!
Lines next to each other: the lines of several files side by side, or all lines of one file in a row.
-/

namespace LineShell.Machine.Pasting

/-- The byte that a letter behind a backslash stands for. -/
def letter? (b : UInt8) : Option UInt8 :=
  [(0x62, 8), (0x66, 12), (0x6E, 10), (0x72, 13), (0x74, 9), (0x76, 11)].lookup b

/-- Reads a list of separators, each of them one byte or none. There is no answer if the last backslash has
nothing behind it. -/
def separators : Bytes → Option (List Bytes)
  | [] => some []
  | [0x5C] => none
  | 0x5C :: b :: bs =>
    (separators bs).map ((if b = 0x30 then [] else [(letter? b).getD b]) :: ·)
  | b :: bs => (separators bs).map ([b] :: ·)

/-- The separator that stands behind a column. -/
def separatorAt (separators : List Bytes) (column : Nat) : Bytes :=
  (separators[column % max 1 separators.length]?).getD []

/-- Complains about a file that cannot be read. -/
def complainAbout (name : Bytes) (e : Errno) : Job Unit := Job.complainOf (Quoting.ifNeeded name) e

/-- Prints the lines of one file in a row. -/
def inRow (separators : List Bytes) (lineEnd : UInt8) (name : Bytes) : Job Nat :=
  let complain (e : Errno) : Job Nat := do
    complainAbout name e
    pure 1
  Job.withOperand name complain fun stream => do
    let (_, failure) ← Job.forLineGroups stream lineEnd 0 fun column lines => do
      let piece (l : Job.Line × Nat) : Bytes :=
        (if l.2 = 0 then [] else separatorAt separators (l.2 - 1)) ++ l.1.bytes
      Job.printStrictly ((lines.zipIdx column).map piece).flatten
      pure (column + lines.length, true)
    Job.printStrictly [lineEnd]
    match failure with
    | none => pure 0
    | some e => complain e

/-- A column: the name of its file, and which of the sources it is read from, as long as that goes on. -/
structure Column where
  name : Bytes
  source : Option Nat

/-- How far a line of all columns has come: what of it is printed, the separators that are only printed if
something follows them, and whether a column had a line. -/
structure Row where
  pieces : List Bytes := []
  saved : Bytes := []
  hasSome : Bool := false

/-- Everything about files side by side. -/
structure Table where
  sources : List (Nat × LineSource)
  columns : List Column
  code : Nat := 0

/-- Takes the next line of a column; a failure is complained about, and ends the column. -/
def Table.take (t : Table) (name : Bytes) (number : Nat) : Job (Option Bytes × Table) := do
  match t.sources.lookup number with
  | none => pure (none, t)
  | some source =>
    let (next, source) ← source.next
    let t := { t with sources := (number, source) :: t.sources.filter (·.1 ≠ number) }
    match next with
    | .line l => pure (some l.bytes, t)
    | .over => pure (none, t)
    | .failed e =>
      complainAbout name e
      pure (none, { t with code := 1 })

/-- One line of all columns. A column that has ended leaves its place empty. -/
def row (separators : List Bytes) (lineEnd : UInt8) : Nat → Table → Row → List Column → Job (Row × Table)
  | _, t, r, [] => pure (r, t)
  | index, t, r, column :: more => do
    let (line, t) ← match column.source with
      | none => pure (none, t)
      | some number => t.take column.name number
    let ending : Bytes := if more = [] then [lineEnd] else separatorAt separators index
    let column' := if line.isNone then { column with source := none } else column
    let t := { t with columns := t.columns ++ [column'] }
    let r : Row := match line with
      | some bytes => ⟨ending :: bytes :: r.saved :: r.pieces, [], true⟩
      | none =>
        if more.isEmpty then (if r.hasSome then ⟨ending :: r.saved :: r.pieces, [], true⟩ else r)
        else { r with saved := r.saved ++ ending }
    row separators lineEnd (index + 1) t r more

/-- Prints the lines of files side by side. -/
def sideBySide (separators : List Bytes) (lineEnd : UInt8) (names : List Bytes) : Job Nat := do
  let (columns, sources) ← names.foldlM (fun ((columns, sources) : List Column × List (Nat × LineSource)) name => do
    if name = Job.dash then
      pure (columns ++ [⟨name, some Job.input⟩], sources.filter (·.1 ≠ Job.input) ++
        [(Job.input, { stream := Job.input, delimiter := lineEnd })])
    else
      match ← Job.openToRead name with
      | .error e => Job.failOf (Quoting.ifNeeded name) e
      | .ok stream =>
        if stream = Job.input ∧ names.contains Job.dash then Job.fail (Utf8.encode "standard input is closed")
        pure (columns ++ [⟨name, some stream⟩], sources ++ [(stream, { stream, delimiter := lineEnd })])) ([], [])
  Job.loop ({ sources, columns } : Table) fun t => do
    if t.columns.all (·.source.isNone) then pure (.inr t.code)
    else
      let (r, t) ← row separators lineEnd 0 { t with columns := [] } {} t.columns
      Job.printStrictly r.pieces.reverse.flatten
      pure (.inl t)

/-- Prints lines next to each other. -/
def run : Job Nat := do
  let o ← Job.options "d|delimiters= s|serial z|zero-terminated"
  let list := match o.value? "delimiters" with
    | none => [0x09]
    | some [] => Utf8.encode "\\0"
    | some list => list
  match separators list with
  | none => Job.fail (Utf8.encode "delimiter list ends with an unescaped backslash: " ++ list)
  | some separators =>
    let lineEnd := if o.has "zero-terminated" then 0 else Lines.newline
    let names := if o.operands = [] then [Job.dash] else o.operands
    let code ←
      if o.has "serial" then Job.forEach names (inRow separators lineEnd)
      else sideBySide separators lineEnd names
    if names.contains Job.dash then
      match ← Job.call (.close Job.input) with
      | .ok () => pure code
      | .error e => Job.failOf Job.dash e
    else pure code

end LineShell.Machine.Pasting
