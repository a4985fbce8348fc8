import LineShell.Machine.Tools.Replacing

/-!
Patterns for parts of a line, and where they match. A pattern leads from a place in the line to the places
where what it matches may end; a set of places is gone through at once, so that no choice is ever taken back.
What a group has matched goes along with a place only if a pattern refers to it.
-/

namespace LineShell.Machine

/-- A set of bytes: ranges and named classes, or all but those. -/
structure ByteSet where
  isComplement : Bool := false
  ranges : List (UInt8 × UInt8) := []
  classes : List Replacing.ByteClass := []
  deriving DecidableEq, Repr

/-- The byte is in one of the ranges or classes. -/
def ByteSet.names (s : ByteSet) (b : UInt8) : Bool :=
  s.ranges.any (fun r => r.1 ≤ b && b ≤ r.2) || s.classes.any (·.contains b)

/-- A condition on a place in a line. -/
inductive Anchor where
  | lineStart
  | lineEnd
  | wordStart
  | wordEnd
  | wordEdge
  | noWordEdge
  deriving DecidableEq, Repr

/-- A pattern. -/
inductive Regex where
  | empty
  | byte (b : UInt8)
  | oneOf (set : ByteSet)
  | anchor (a : Anchor)
  | seq (first second : Regex)
  | either (first second : Regex)
  | repeated (r : Regex) (least : Nat) (most : Option Nat)
  | group (number : Nat) (r : Regex)
  | again (number : Nat)
  deriving DecidableEq, Repr

namespace Regex

/-- A place in a line, and where groups have matched. -/
structure Spot where
  place : Nat
  groups : List (Nat × Nat × Nat) := []
  deriving DecidableEq, Repr

/-- A line that patterns are matched against. `folds` says that the case of letters does not count. -/
structure Subject where
  line : Array UInt8
  folds : Bool := false

/-- A letter in lower case. -/
def lower (b : UInt8) : UInt8 := if 0x41 ≤ b ∧ b ≤ 0x5A then b + 0x20 else b

/-- A letter in upper case. -/
def upper (b : UInt8) : UInt8 := if 0x61 ≤ b ∧ b ≤ 0x7A then b - 0x20 else b

/-- The byte at a place. -/
def Subject.at? (s : Subject) (place : Nat) : Option UInt8 := s.line[place]?

/-- Two bytes count as the same. -/
def Subject.same (s : Subject) (a b : UInt8) : Bool := if s.folds then lower a == lower b else a == b

/-- The byte is in a set. -/
def Subject.isIn (s : Subject) (set : ByteSet) (b : UInt8) : Bool :=
  let named := if s.folds then set.names (lower b) || set.names (upper b) else set.names b
  named != set.isComplement

/-- A byte of a word. -/
def isWordByte (b : UInt8) : Bool := Replacing.ByteClass.alnum.contains b || b == 0x5F

/-- A word goes on behind the place. -/
def Subject.wordAfter (s : Subject) (place : Nat) : Bool := (s.at? place).any isWordByte

/-- A word goes on before the place. -/
def Subject.wordBefore (s : Subject) (place : Nat) : Bool :=
  match place with
  | 0 => false
  | n + 1 => s.wordAfter n

/-- The condition holds at the place. -/
def Subject.meets (s : Subject) (place : Nat) : Anchor → Bool
  | .lineStart => place == 0
  | .lineEnd => place == s.line.size
  | .wordStart => !s.wordBefore place && s.wordAfter place
  | .wordEnd => s.wordBefore place && !s.wordAfter place
  | .wordEdge => s.wordBefore place != s.wordAfter place
  | .noWordEdge => s.wordBefore place == s.wordAfter place

/-- All of two lists of spots that are in order of their places. Every step uses up a spot. -/
def union : Nat → List Spot → List Spot → List Spot
  | 0, _, _ => []
  | _, [], bs => bs
  | _, as, [] => as
  | n + 1, a :: as, b :: bs =>
    if a = b then a :: union n as bs
    else if a.place ≤ b.place ∧ !bs.contains a then a :: union n as (b :: bs)
    else if a.place ≤ b.place then union n as (b :: bs)
    else b :: union n (a :: as) bs

/-- The union of two sets of spots. -/
def both (as bs : List Spot) : List Spot := union (as.length + bs.length) as bs

/-- Goes on from a set of spots so many times. -/
def iterate (step : List Spot → List Spot) : Nat → List Spot → List Spot
  | 0, spots => spots
  | n + 1, spots => if spots = [] then [] else iterate step n (step spots)

/-- Goes on from a set of spots at most so many times; `new` are those that have not been gone on from. -/
def spread (step : List Spot → List Spot) : Nat → List Spot → List Spot → List Spot
  | 0, _, seen => seen
  | n + 1, new, seen =>
    if new = [] then seen
    else
      let next := (step new).filter (!seen.contains ·)
      spread step n next (both seen next)

/-- What was matched stands here again. -/
def Subject.repeats (s : Subject) (start length place : Nat) : Bool :=
  (List.range length).all fun i =>
    match s.at? (start + i), s.at? (place + i) with
    | some a, some b => s.same a b
    | _, _ => false

/-- Where matches may end that start at some spots, in order of the places. -/
def ends (s : Subject) : Regex → List Spot → List Spot
  | .empty, spots => spots
  | .byte b, spots => spots.filterMap fun p =>
    if (s.at? p.place).any (s.same b) then some { p with place := p.place + 1 } else none
  | .oneOf set, spots => spots.filterMap fun p =>
    if (s.at? p.place).any (s.isIn set) then some { p with place := p.place + 1 } else none
  | .anchor a, spots => spots.filter fun p => s.meets p.place a
  | .seq a b, spots => b.ends s (a.ends s spots)
  | .either a b, spots => both (a.ends s spots) (b.ends s spots)
  | .repeated r least most, spots =>
    let spots := iterate (r.ends s) least spots
    let rounds := match most with
      | none => s.line.size + 1
      | some most => min (most - least) (s.line.size + 1)
    spread (r.ends s) rounds spots spots
  | .group n r, spots =>
    (spots.map fun p => (r.ends s [p]).map fun q =>
      { q with groups := (n, p.place, q.place) :: q.groups.filter (·.1 ≠ n) }).foldl both []
  | .again n, spots => spots.filterMap fun p =>
    match p.groups.lookup n with
    | none => none
    | some (start, stop) =>
      if s.repeats start (stop - start) p.place then some { p with place := p.place + (stop - start) } else none

/-- The pattern refers to a group. -/
def hasAgain : Regex → Bool
  | .again _ => true
  | .seq a b => a.hasAgain || b.hasAgain
  | .either a b => a.hasAgain || b.hasAgain
  | .repeated r _ _ => r.hasAgain
  | .group _ r => r.hasAgain
  | _ => false

/-- The pattern without groups that nothing refers to. -/
def withoutGroups : Regex → Regex
  | .seq a b => .seq a.withoutGroups b.withoutGroups
  | .either a b => .either a.withoutGroups b.withoutGroups
  | .repeated r least most => .repeated r.withoutGroups least most
  | .group _ r => r.withoutGroups
  | r => r

/-- The pattern in the form in which it is matched. -/
def prepared (r : Regex) : Regex := if r.hasAgain then r else r.withoutGroups

/-- A pattern for exactly these bytes. -/
def ofBytes (bs : Bytes) : Regex :=
  match bs with
  | [] => .empty
  | [b] => .byte b
  | b :: rest => .seq (.byte b) (ofBytes rest)

end Regex
end LineShell.Machine
