import LineShell.Machine.Tools.Regex

/-!
Reading patterns, in either of two spellings. In the plain one the signs for groups, choices and most
repetitions have a backslash before them; in the extended one they have none. A sign that makes no sense where
it stands counts as itself, or is left out with a warning.
-/

namespace LineShell.Machine.Regex

/-- Why a pattern cannot be read. -/
inductive RegexFault where
  | openBracket
  | emptyBracket
  | unknownClass
  | bareClass
  | unknownCollation
  | badRange
  | trailingBackslash
  | openGroup
  | closedGroup
  | openInterval
  | badInterval
  | tooBig
  | unknownGroup
  deriving DecidableEq, Repr

/-- The complaint about a pattern. -/
def RegexFault.message : RegexFault → String
  | .openBracket => "Unmatched [, [^, [:, [., or [="
  | .emptyBracket => "Invalid regular expression"
  | .unknownClass => "Invalid character class name"
  | .bareClass => "character class syntax is [[:space:]], not [:space:]"
  | .unknownCollation => "Invalid collation character"
  | .badRange => "Invalid range end"
  | .trailingBackslash => "Trailing backslash"
  | .openGroup => "Unmatched ( or \\("
  | .closedGroup => "Unmatched ) or \\)"
  | .openInterval => "Unmatched \\\x7b"
  | .badInterval => "Invalid content of \\\x7b\\\x7d"
  | .tooBig => "Regular expression too big"
  | .unknownGroup => "Invalid back reference"

/-- One thing between brackets: a byte, which may begin or end a range, or a class. -/
inductive SetItem where
  | byte (b : UInt8)
  | named (c : Replacing.ByteClass)
  deriving DecidableEq, Repr

/-- What stands before a mark and a closing bracket, and what follows these. -/
def upToMark (mark : UInt8) : Bytes → Option (Bytes × Bytes)
  | a :: b :: rest =>
    if a = mark ∧ b = 0x5D then some ([], rest)
    else (upToMark mark (b :: rest)).map fun (inside, rest) => (a :: inside, rest)
  | _ => none

/-- Reads one thing between brackets. -/
def setItem : Bytes → Except RegexFault (SetItem × Bytes)
  | [] => .error .openBracket
  | 0x5B :: m :: rest =>
    if m = 0x3A then
      match upToMark m rest with
      | none => .error .openBracket
      | some (name, rest) =>
        match Replacing.ByteClass.ofName? name with
        | some c => .ok (.named c, rest)
        | none => .error .unknownClass
    else if m = 0x2E ∨ m = 0x3D then
      match upToMark m rest with
      | none => .error .openBracket
      | some ([b], rest) => .ok (.byte b, rest)
      | some _ => .error .unknownCollation
    else .ok (.byte 0x5B, m :: rest)
  | b :: rest => .ok (.byte b, rest)

/-- Reads what stands between brackets up to the closing one, which counts as itself if it comes first. Every
step uses up at least one byte. -/
def setItems : Nat → Bool → ByteSet → Bytes → Except RegexFault (ByteSet × Bytes)
  | 0, _, _, _ => .error .openBracket
  | _, _, _, [] => .error .openBracket
  | n + 1, isFirst, set, b :: bs =>
    if b = 0x5D ∧ !isFirst then .ok (set, bs)
    else do
      let (item, rest) ← setItem (b :: bs)
      match rest with
      | 0x2D :: c :: more =>
        if c = 0x5D then
          match item with
          | .byte b => setItems n false { set with ranges := (b, b) :: set.ranges } rest
          | .named k => setItems n false { set with classes := k :: set.classes } rest
        else
          let (last, rest) ← setItem (c :: more)
          match item, last with
          | .byte first, .byte last =>
            if last < first then throw .badRange
            match rest with
            | 0x2D :: d :: _ => if d ≠ 0x5D then throw .badRange
            | _ => pure ()
            setItems n false { set with ranges := (first, last) :: set.ranges } rest
          | _, _ => throw .badRange
      | rest =>
        match item with
        | .byte b => setItems n false { set with ranges := (b, b) :: set.ranges } rest
        | .named k => setItems n false { set with classes := k :: set.classes } rest

/-- Reads a set behind its opening bracket. -/
def set (bs : Bytes) : Except RegexFault (ByteSet × Bytes) := do
  let (isComplement, inside) := match bs with
    | 0x5E :: rest => (true, rest)
    | rest => (false, rest)
  if inside = [] then throw .emptyBracket
  let (set, rest) ← setItems inside.length true { isComplement } inside
  let text := inside.take (inside.length - rest.length - 1)
  let isPlain := set.classes = [] ∧ set.ranges.all (fun r => r.1 = r.2)
  if isPlain ∧ 2 < text.length ∧ text.head? = some 0x3A ∧ text.getLast? = some 0x3A then throw .bareClass
  pure (set, rest)

/-- The place in a pattern, and the groups that have been read. -/
structure Reading where
  isExtended : Bool
  groups : Nat := 0
  closed : List Nat := []
  warnings : List String := []

/-- The kinds of signs that say how often something is repeated. -/
inductive Repetition where
  | star
  | plus
  | question
  | interval (least : Nat) (most : Option Nat)
  deriving DecidableEq, Repr

/-- The sign as warnings show it. -/
def Repetition.text : Repetition → String
  | .star => "*"
  | .plus => "+"
  | .question => "?"
  | .interval _ _ => "\x7b...\x7d"

/-- A pattern repeated. -/
def Repetition.apply (r : Regex) : Repetition → Regex
  | .star => .repeated r 0 none
  | .plus => .repeated r 1 none
  | .question => .repeated r 0 (some 1)
  | .interval least most => .repeated r least most

/-- The most repetitions. -/
def mostTimes : Nat := 32767

/-- What an interval says: nothing valid, or how often. -/
inductive Interval where
  | cut
  | malformed
  | empty
  | times (least : Nat) (most : Option Nat)

/-- Reads an interval behind its opening brace. -/
def interval (isExtended : Bool) (bs : Bytes) : Interval × Bytes :=
  let first := bs.takeWhile Numeral.isDigit
  let rest := bs.drop first.length
  let close (bs : Bytes) : Option Bytes :=
    match bs with
    | 0x7D :: rest => if isExtended then some rest else none
    | 0x5C :: 0x7D :: rest => if isExtended then none else some rest
    | _ => none
  let number (ds : Bytes) : Nat := Numeral.valueOf 10 ds
  match close rest with
  | some rest => (if first = [] then .empty else .times (number first) (some (number first)), rest)
  | none =>
    match rest with
    | 0x2C :: more =>
      let last := more.takeWhile Numeral.isDigit
      let behind := more.drop last.length
      match close behind with
      | some rest => (.times (number first) (if last = [] then none else some (number last)), rest)
      | none => (if behind = [] then .cut else .malformed, behind)
    | [] => (.cut, [])
    | rest => (.malformed, rest)

/-- Reads an interval as a repetition; none if it counts as itself. -/
def intervalAt (isExtended : Bool) (bs : Bytes) : Except RegexFault (Option (Repetition × Bytes)) :=
  match interval isExtended bs with
  | (.cut, _) => if isExtended then .ok none else .error .openInterval
  | (.malformed, _) => if isExtended then .ok none else .error .badInterval
  | (.empty, _) => .error .badInterval
  | (.times least most, rest) =>
    if most.any (· < least) then .error .badInterval
    else if mostTimes < least ∨ most.any (mostTimes < ·) then .error .tooBig
    else .ok (some (.interval least most, rest))

/-- Reads a repetition, if one stands here. -/
def repetition? (isExtended : Bool) (bs : Bytes) : Except RegexFault (Option (Repetition × Bytes)) :=
  match bs with
  | 0x2A :: rest => .ok (some (.star, rest))
  | 0x2B :: rest => .ok (if isExtended then some (.plus, rest) else none)
  | 0x3F :: rest => .ok (if isExtended then some (.question, rest) else none)
  | 0x7B :: rest => if isExtended then intervalAt true rest else .ok none
  | 0x5C :: 0x2B :: rest => .ok (if isExtended then none else some (.plus, rest))
  | 0x5C :: 0x3F :: rest => .ok (if isExtended then none else some (.question, rest))
  | 0x5C :: 0x7B :: rest => if isExtended then .ok none else intervalAt false rest
  | _ => .ok none

/-- Reads repetitions as long as some follow. Every step uses up at least one byte. -/
def repetitions (isExtended : Bool) : Nat → Regex → Bytes → Except RegexFault (Regex × Bytes)
  | 0, r, bs => .ok (r, bs)
  | n + 1, r, bs => do
    match ← repetition? isExtended bs with
    | some (times, rest) => repetitions isExtended n (times.apply r) rest
    | none => pure (r, bs)

/-- An alternative begins here; what follows its sign. -/
def choiceAt? (isExtended : Bool) (bs : Bytes) : Option Bytes :=
  match bs with
  | 0x7C :: rest => if isExtended then some rest else none
  | 0x5C :: 0x7C :: rest => if isExtended then none else some rest
  | _ => none

/-- A group begins here; what follows its sign. -/
def groupAt? (isExtended : Bool) (bs : Bytes) : Option Bytes :=
  match bs with
  | 0x28 :: rest => if isExtended then some rest else none
  | 0x5C :: 0x28 :: rest => if isExtended then none else some rest
  | _ => none

/-- A group ends here; what follows its sign. -/
def closeAt? (isExtended : Bool) (bs : Bytes) : Option Bytes :=
  match bs with
  | 0x29 :: rest => if isExtended then some rest else none
  | 0x5C :: 0x29 :: rest => if isExtended then none else some rest
  | _ => none

/-- Nothing of this alternative follows. -/
def isAtEnd (isExtended : Bool) (bs : Bytes) : Bool :=
  bs.isEmpty || (choiceAt? isExtended bs).isSome || (closeAt? isExtended bs).isSome

/-- The anchor or the set that a letter behind a backslash means. -/
def letter? (b : UInt8) : Option Regex :=
  let wordBytes : ByteSet := { ranges := [(0x5F, 0x5F)], classes := [.alnum] }
  match Char.ofNat b.toNat with
  | '<' => some (.anchor .wordStart)
  | '>' => some (.anchor .wordEnd)
  | 'b' => some (.anchor .wordEdge)
  | 'B' => some (.anchor .noWordEdge)
  | '\'' => some (.anchor .lineEnd)
  | 'w' => some (.oneOf wordBytes)
  | 'W' => some (.oneOf { wordBytes with isComplement := true })
  | 's' => some (.oneOf { classes := [.space] })
  | 'S' => some (.oneOf { classes := [.space], isComplement := true })
  | _ => if b = 0x60 then some (.anchor .lineStart) else none

/-- Where in an alternative something stands: first, behind anchors only, or behind what they do not hold of. -/
inductive Position where
  | first
  | behindAnchor
  | inside
  deriving DecidableEq, Repr

/-- Reads an atom that is no group: the pattern, whether it is an anchor, and what follows. -/
def simpleAtom (s : Reading) (p : Position) (b : UInt8) (rest : Bytes) :
    Except RegexFault (Regex × Bool × Bytes) :=
  if b = 0x5B then do
    let (set, rest) ← set rest
    pure (.oneOf set, false, rest)
  else if b = 0x2E then .ok (.oneOf { isComplement := true }, false, rest)
  else if b = 0x5E ∧ (s.isExtended ∨ p = .first) then .ok (.anchor .lineStart, true, rest)
  else if b = 0x24 ∧ (s.isExtended ∨ isAtEnd false rest) then .ok (.anchor .lineEnd, true, rest)
  else if b = 0x5C then
    match rest with
    | [] => .error .trailingBackslash
    | c :: rest =>
      if 0x31 ≤ c ∧ c ≤ 0x39 then
        let n := c.toNat - 0x30
        if s.closed.contains n then .ok (.again n, false, rest) else .error .unknownGroup
      else
        match letter? c with
        | some r => .ok (r, false, rest)
        | none => .ok (.byte c, false, rest)
  else .ok (.byte b, false, rest)

/-- Reads one alternative. Every step uses up at least one byte. -/
def alternative (inner : Reading → Bytes → Except RegexFault (Regex × Reading × Bytes)) :
    Nat → Nat → Position → Reading → Bytes → Except RegexFault (Regex × Reading × Bytes)
  | 0, _, _, s, bs => .ok (.empty, s, bs)
  | _, _, _, s, [] => .ok (.empty, s, [])
  | n + 1, depth, p, s, b :: bs => do
    let closing := closeAt? s.isExtended (b :: bs)
    if (choiceAt? s.isExtended (b :: bs)).isSome || (closing.isSome && 0 < depth) then pure (.empty, s, b :: bs)
    else if closing.isSome && !s.isExtended then throw .closedGroup
    else
      match groupAt? s.isExtended (b :: bs) with
      | some rest =>
        let number := s.groups + 1
        let (r, s, rest) ← inner { s with groups := number } rest
        match closeAt? s.isExtended rest with
        | none => throw .openGroup
        | some rest =>
          let s := { s with closed := number :: s.closed }
          let (r, rest) ← repetitions s.isExtended rest.length (.group number r) rest
          let (more, s, rest) ← alternative inner n depth .inside s rest
          pure (.seq r more, s, rest)
      | none =>
        let early ← if p ≠ .inside ∧ s.isExtended then repetition? true (b :: bs) else pure none
        match early with
        | some (times, rest) =>
          let warning := s!"warning: {times.text} at start of expression"
          alternative inner n depth p { s with warnings := s.warnings ++ [warning] } rest
        | none =>
          let starred := p ≠ .inside ∧ !s.isExtended ∧ b = 0x5C ∧ (bs.head? = some 0x7B)
          let (r, isAnchor, rest) ←
            if starred then pure (.byte 0x7B, false, bs.drop 1) else simpleAtom s p b bs
          if isAnchor then
            let (more, s, rest) ← alternative inner n depth (if p ≠ .inside ∨ s.isExtended then .behindAnchor else .inside) s rest
            pure (.seq r more, s, rest)
          else
            let (r, rest) ← repetitions s.isExtended rest.length r rest
            let (more, s, rest) ← alternative inner n depth .inside s rest
            pure (.seq r more, s, rest)

/-- Reads alternatives, with groups nested so deep at most. Every alternative but the last uses up a byte. -/
def alternatives : Nat → Nat → Nat → Reading → Bytes → Except RegexFault (Regex × Reading × Bytes)
  | 0, _, _, _, _ => .error .tooBig
  | _, 0, _, s, bs => .ok (.empty, s, bs)
  | levels + 1, n + 1, depth, s, bs => do
    let inner (s : Reading) (bs : Bytes) := alternatives levels bs.length.succ (depth + 1) s bs
    let (r, s, rest) ← alternative inner bs.length.succ depth .first s bs
    match choiceAt? s.isExtended rest with
    | none => pure (r, s, rest)
    | some rest =>
      let (other, s, rest) ← alternatives (levels + 1) n depth s rest
      pure (.either r other, s, rest)
termination_by levels n => (levels, n)

/-- Reads a pattern: the pattern and the warnings about it. -/
def read (isExtended : Bool) (bs : Bytes) : Except RegexFault (Regex × List String) := do
  let (r, s, _) ← alternatives bs.length.succ bs.length.succ 0 { isExtended } bs
  pure (r, s.warnings)

end LineShell.Machine.Regex
