import LineShell.Machine.Script.Pattern
import LineShell.Machine.Tools.Amount
import LineShell.Machine.Tools.Choice
import LineShell.Machine.Tools.Layout
import LineShell.Machine.Tools.Moment
import LineShell.Machine.Tools.Naming
import LineShell.Machine.Tools.Rights
import LineShell.Machine.Tools.VersionOrder
import LineShell.Text.ByteOrder

/-!
Lists of entries: how they are ordered, and how each of them and all together are shown.
-/

namespace LineShell.Machine.Listing

/-- How the entries of a list stand on lines. -/
inductive Format where
  | lines
  | columns
  | rows
  | commas
  | long
  deriving DecidableEq, Repr

/-- What entries are ordered by. -/
inductive Arrangement where
  | name
  | time
  | size
  | extension
  | version
  | width
  | none
  deriving DecidableEq, Repr

/-- What entries show what they are behind their names. -/
inductive Indication where
  | none
  | directories
  | kinds
  | all
  deriving DecidableEq, Repr

/-- Which names with a dot in front are listed. -/
inductive Concealment where
  | dotted
  | selfAndParent
  | nothing
  deriving DecidableEq, Repr

/-- Which links are followed. -/
inductive Following where
  | never
  | operandsToDirectories
  | operands
  | always
  deriving DecidableEq, Repr

/-- How amounts are shown. -/
inductive Scale where
  | units (size : Nat)
  | powers (base : Nat)
  deriving DecidableEq, Repr

/-- How entries are listed. -/
structure Style where
  format : Format := .lines
  arrangement : Arrangement := .name
  isReversed : Bool := false
  directoriesFirst : Bool := false
  concealment : Concealment := .dotted
  ignored : List (List Script.Pattern.Item) := []
  hidden : List (List Script.Pattern.Item) := []
  directoriesAsEntries : Bool := false
  recursive : Bool := false
  indication : Indication := .none
  following : Following := .never
  showsNumbers : Bool := false
  showsBlocks : Bool := false
  showsOwner : Bool := true
  showsGroup : Bool := true
  showsAuthor : Bool := false
  showsContext : Bool := false
  ownersAsNumbers : Bool := false
  scale : Scale := .units 1
  blockScale : Scale := .units 1024
  manner : Quoting.Manner := .literal
  masksUnseen : Bool := false
  ending : UInt8 := Lines.newline
  width : Nat := 80
  tab : Nat := 8
  dating : Date → Date → String := fun _ _ => ""

/-- An entry of a list: its name, what is known of it, and what it leads to if it is a link. -/
structure Entry where
  name : Bytes
  status : Option EntryStatus := none
  target : Option Bytes := none
  goal : Option EntryStatus := none

namespace Entry

/-- What kind of entry it is, if that is known. -/
def kind? (e : Entry) : Option EntryKind := e.status.map EntryStatus.kind

/-- The entry is a directory. -/
def isDirectory (e : Entry) : Bool := e.kind? == some .directory

/-- The entry is a directory, or a link to one. -/
def leadsToDirectory (e : Entry) : Bool :=
  e.isDirectory || e.goal.any (·.kind == .directory)

/-- How much room the entry takes, in bytes. -/
def room (e : Entry) : Nat :=
  match e.status with
  | some s => if s.kind = .file ∨ s.kind = .directory then (s.size + 4095) / 4096 * 4096 else 0
  | none => 0

/-- The number of an entry. -/
def number (e : Entry) : Nat :=
  match e.status.map EntryStatus.identity with
  | some (.body n) => 1000 + n
  | some (.pipe n) => 1000 + n
  | some (.location l) => 100000 + (l.flatten.foldl (fun n b => (n * 31 + b.toNat) % 900000) 7)
  | _ => 5

end Entry

/-! ### Order -/

/-- What stands behind the last dot of a name, with it. -/
def extension (name : Bytes) : Bytes :=
  if name.contains 0x2E then 0x2E :: (name.reverse.takeWhile (· ≠ 0x2E)).reverse else []

/-- The order of two entries. -/
def Style.compare (s : Style) (a b : Entry) : Ordering :=
  let names := compareBytes a.name b.name
  let known (f : EntryStatus → Nat) (e : Entry) : Nat := (e.status.map f).getD 0
  let base := match s.arrangement with
    | .name => names
    | .time => (Ord.compare (known EntryStatus.time b) (known EntryStatus.time a)).then names
    | .size => (Ord.compare (known EntryStatus.size b) (known EntryStatus.size a)).then names
    | .extension => (compareBytes (extension a.name) (extension b.name)).then names
    | .version => (VersionOrder.compare a.name b.name).then names
    | .width => (Ord.compare a.name.length b.name.length).then names
    | .none => .eq
  let base := if s.isReversed then base.swap else base
  if s.directoriesFirst then
    (Ord.compare b.leadsToDirectory.toNat a.leadsToDirectory.toNat).then base
  else base

/-- Entries in order. -/
def Style.sort (s : Style) (entries : List Entry) : List Entry :=
  if s.arrangement = .none then entries else entries.mergeSort fun a b => (s.compare a b).isLE

/-! ### Entries -/

/-- The mark behind a name. -/
def Style.mark (s : Style) (status : Option EntryStatus) : Bytes :=
  match status, s.indication with
  | none, _ | _, .none => []
  | some t, indication =>
    match t.kind with
    | .directory => [0x2F]
    | .file => if indication = .all ∧ Rights.holds t.mode 0o111 then [0x2A] else []
    | .link => if indication = .directories then [] else [0x40]
    | .pipe => if indication = .directories then [] else [0x7C]
    | .device => []

/-- A name as it is shown. -/
def Style.quote (s : Style) (name : Bytes) : Bytes :=
  let shown := s.manner.apply name
  if s.masksUnseen then shown.map fun b => if Quoting.isPrintable b then b else 0x3F else shown

/-- A name behind a blank, if other names stand between quotes and it does not. -/
def Style.aligned (s : Style) (someQuoted : Bool) (name : Bytes) : Bytes :=
  if someQuoted && s.quote name == name then 0x20 :: s.quote name else s.quote name

/-- Names are lined up with those that stand between quotes. -/
def Style.alignsQuotes (s : Style) : Bool :=
  s.manner.isSparing &&
    (s.format == .long || ((s.format == .columns || s.format == .rows) && s.width != 0))

/-- The letters behind numbers that count thousands, and so on. -/
def powerLetters : List Char := ['K', 'M', 'G', 'T', 'P', 'E', 'Z', 'Y']

/-- An amount of bytes, rounded up, with a letter for the power that it is counted in. -/
def scaled (base amount : Nat) : Nat → List Char → Nat → String
  | 0, _, _ => s!"{amount}"
  | _, [], _ => s!"{amount}"
  | n + 1, letter :: more, unit =>
    let unit := unit * base
    let tenths := (amount * 10 + unit - 1) / unit
    let whole := (amount + unit - 1) / unit
    let letter := if base = 1000 ∧ letter = 'K' then 'k' else letter
    if tenths < 100 then s!"{tenths / 10}.{tenths % 10}{letter}"
    else if whole < base ∨ more = [] then s!"{whole}{letter}"
    else scaled base amount n more unit

/-- An amount of bytes. -/
def Scale.text (s : Scale) (amount : Nat) : String :=
  match s with
  | .units size => s!"{(amount + size - 1) / size}"
  | .powers base => if amount < base then s!"{amount}" else scaled base amount 8 powerLetters 1

/-- A text behind blanks, up to a width. -/
def right (width : Nat) (text : String) : String :=
  String.ofList (List.replicate (width - text.length) ' ') ++ text

/-- A text before blanks, up to a width. -/
def left (width : Nat) (text : String) : String :=
  text ++ String.ofList (List.replicate (width - text.length) ' ')

/-- The widest of some texts. -/
def widest (texts : List String) : Nat := (texts.map String.length).foldl max 0

/-- The blocks that an entry takes. -/
def Style.blocks (s : Style) (e : Entry) : String :=
  if e.status.isNone then "?" else s.blockScale.text e.room

/-- The number of an entry as it is shown. -/
def numberText (e : Entry) : String := if e.status.isNone then "?" else s!"{e.number}"

/-- What stands in front of the names of entries. -/
def Style.fronts (s : Style) (entries : List Entry) : List String :=
  let numbers := entries.map numberText
  let blocks := entries.map s.blocks
  let isFree := s.format == .commas
  let numberWidth := if isFree then 0 else widest numbers
  let blockWidth := if isFree then 0 else widest blocks
  (numbers.zip blocks).map fun (number, block) =>
    (if s.showsNumbers then right numberWidth number ++ " " else "") ++
      (if s.showsBlocks then right blockWidth block ++ " " else "") ++
      (if s.showsContext ∧ s.format ≠ .long then "? " else "")

/-- Entries as pieces of a layout. -/
def Style.pieces (s : Style) (entries : List Entry) : List Layout.Piece :=
  let someQuoted := s.alignsQuotes && entries.any fun e => s.quote e.name != e.name
  ((s.fronts entries).zip entries).map fun (front, e) =>
    let shown := Utf8.encode front ++ s.aligned someQuoted e.name ++ s.mark e.status
    ⟨shown.length, shown⟩

/-- The name of the owner of entries, and of the group that they belong to. -/
def ownerName : String := "user"

/-- The number of the owner of entries, and of the group that they belong to. -/
def ownerNumber : String := "1000"

/-- The columns of an entry that is described on a line of its own: the text, and whether it stands at the left. -/
def Style.cells (s : Style) (e : Entry) : List (String × Bool) :=
  let owner := if s.ownersAsNumbers then ownerNumber else ownerName
  let owner := if e.status.isNone then "?" else owner
  let device := e.kind? == some .device
  let size := match e.status with
    | none => "?"
    | some t => if device then "1, 3" else s.scale.text t.size
  let links := match e.status with
    | none => "?"
    | some t => s!"{t.links}"
  let isLeft := !s.ownersAsNumbers
  [(links, false)] ++ (if s.showsOwner then [(owner, isLeft)] else []) ++
    (if s.showsGroup then [(owner, isLeft)] else []) ++ (if s.showsAuthor then [(owner, isLeft)] else []) ++
    (if s.showsContext then [("?", true)] else []) ++ [(size, false)]

/-- Rows of columns, each as wide as its widest text. -/
def alignCells (rows : List (List (String × Bool))) : List (List String) :=
  let count := (rows.map List.length).foldl max 0
  let widths := (List.range count).map fun c => widest (rows.map fun r => (r.getD c ("", false)).1)
  rows.map fun r => (r.zip widths).map fun ((text, isLeft), width) =>
    if isLeft then left width text else right width text

/-- What an entry is and which rights it has. -/
def rightsText (e : Entry) : String :=
  match e.status with
  | none => "-?????????"
  | some t => String.ofList [Rights.kindLetter t.kind] ++ Rights.text t.mode

/-- When an entry was changed. -/
def Style.dateText (s : Style) (now : Nat) (e : Entry) : String :=
  let date (t : Nat) : Date := .ofSeconds (t / Nat.pow 10 9 : Nat)
  match e.status with
  | none => right (s.dating (date now) (date now)).length "?"
  | some t => s.dating (date now) (date t.time)

/-- Entries that are described each on a line of its own. -/
def Style.longLines (s : Style) (now : Nat) (entries : List Entry) : List Bytes :=
  let someQuoted := s.alignsQuotes && entries.any fun e => s.quote e.name != e.name
  ((s.fronts entries).zip ((alignCells (entries.map s.cells)).zip entries)).map fun (front, cells, e) =>
    let words := rightsText e :: cells ++ [s.dateText now e]
    let arrow := match e.target with
      | some target => Utf8.encode " -> " ++ s.quote target ++ s.mark e.goal
      | none => if e.kind? = some .link then [] else s.mark e.status
    Utf8.encode (front ++ " ".intercalate words ++ " ") ++ s.aligned someQuoted e.name ++ arrow

/-- A list of entries as it is printed. -/
def Style.render (s : Style) (now : Nat) (entries : List Entry) : Bytes :=
  let pieces := s.pieces entries
  let plain := pieces.flatMap fun p => p.bytes ++ [s.ending]
  match s.format with
  | .long => (s.longLines now entries).flatMap fun l => l ++ [s.ending]
  | .lines => plain
  | .commas => Layout.withSeparator 0x2C s.width s.ending pieces
  | .columns | .rows =>
    if entries = [] then []
    else if s.width = 0 then
      [0x20, 0x20].intercalate (pieces.map Layout.Piece.bytes) ++ [s.ending]
    else Layout.inColumns (s.format == .columns) s.width s.tab s.ending pieces

end LineShell.Machine.Listing
