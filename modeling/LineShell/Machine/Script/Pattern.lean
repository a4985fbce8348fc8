import LineShell.Text.Utf8

/-!
Patterns of scripts, for names and for values: a star stands for any bytes, a question mark for one, and
brackets for one of a set. A byte that was quoted, or stands behind a backslash, stands for itself.
-/

namespace LineShell.Machine.Script

/-- A byte of an expanded word, and whether it was quoted. -/
abbrev FieldByte := UInt8 × Bool

namespace Pattern

/-- Some of the bytes of a set. -/
inductive Member where
  | range (first last : UInt8)
  | named (name : Bytes)
  deriving DecidableEq, Repr

/-- A piece of a pattern. -/
inductive Item where
  | byte (b : UInt8)
  | any
  | many
  | oneOf (isNegated : Bool) (members : List Member)
  deriving DecidableEq, Repr

/-- A letter. -/
def isAlpha (b : UInt8) : Bool := (0x41 ≤ b && b ≤ 0x5A) || (0x61 ≤ b && b ≤ 0x7A)

/-- The byte belongs to a named class. -/
def isOfClass (name : Bytes) (b : UInt8) : Bool :=
  let digit := 0x30 ≤ b && b ≤ 0x39
  let graph := 0x21 ≤ b && b ≤ 0x7E
  [("alpha", isAlpha b), ("digit", digit), ("alnum", isAlpha b || digit),
    ("upper", 0x41 ≤ b && b ≤ 0x5A), ("lower", 0x61 ≤ b && b ≤ 0x7A),
    ("space", b == 0x20 || (0x09 ≤ b && b ≤ 0x0D)), ("blank", b == 0x20 || b == 0x09),
    ("punct", graph && !isAlpha b && !digit), ("print", graph || b == 0x20), ("graph", graph),
    ("cntrl", b < 0x20 || b == 0x7F),
    ("xdigit", digit || (0x41 ≤ b && b ≤ 0x46) || (0x61 ≤ b && b ≤ 0x66))].any fun c =>
      Utf8.encode c.1 == name && c.2

/-- Reads the name of a class behind its bracket and colon. -/
def className? (bs : List FieldByte) : Option (Bytes × List FieldByte) :=
  let name := bs.takeWhile fun b => isAlpha b.1 && !b.2
  match bs.drop name.length with
  | (0x3A, false) :: (0x5D, false) :: rest => some (name.map Prod.fst, rest)
  | _ => none

/-- Reads the members of a set, up to the bracket that closes it; the first is one even if it is such a
bracket. -/
def members : Nat → Bool → List FieldByte → List Member → Option (List Member × List FieldByte)
  | 0, _, _, _ => none
  | _, _, [], _ => none
  | n + 1, isFirst, (b, q) :: rest, ms =>
    if b = 0x5D ∧ !q ∧ !isFirst then some (ms.reverse, rest)
    else
      match (if b = 0x5B ∧ !q ∧ rest.head? = some (0x3A, false) then className? (rest.drop 1) else none) with
      | some (name, rest) => members n false rest (.named name :: ms)
      | none =>
        match rest with
        | (0x2D, false) :: (c, r) :: rest =>
          if c = 0x5D ∧ !r then members n false ((0x2D, false) :: (c, r) :: rest) (.range b b :: ms)
          else members n false rest (.range b c :: ms)
        | rest => members n false rest (.range b b :: ms)

/-- Reads a pattern. Every step uses up at least one byte. -/
def itemsOf : Nat → List FieldByte → List Item
  | 0, _ => []
  | _, [] => []
  | n + 1, (b, q) :: rest =>
    if q then .byte b :: itemsOf n rest
    else if b = 0x5C then
      match rest with
      | [] => [.byte b]
      | (c, _) :: rest => .byte c :: itemsOf n rest
    else if b = 0x3F then .any :: itemsOf n rest
    else if b = 0x2A then .many :: itemsOf n rest
    else if b = 0x5B then
      let (isNegated, inside) := match rest with
        | (0x21, false) :: inside => (true, inside)
        | inside => (false, inside)
      match members (inside.length + 1) true inside [] with
      | some (ms, rest) => .oneOf isNegated ms :: itemsOf n rest
      | none => .byte b :: itemsOf n rest
    else .byte b :: itemsOf n rest

/-- The pattern that bytes are. -/
def ofField (bs : List FieldByte) : List Item := itemsOf bs.length bs

/-- The byte belongs to the member. -/
def Member.accepts (b : UInt8) : Member → Bool
  | .range first last => first ≤ b && b ≤ last
  | .named name => isOfClass name b

/-- Some end of the bytes is as wanted. -/
def anyEnd (wanted : Bytes → Bool) : Bytes → Bool
  | [] => wanted []
  | b :: bs => wanted (b :: bs) || anyEnd wanted bs

/-- The pattern stands for the bytes. -/
def accepts : List Item → Bytes → Bool
  | [], bs => bs.isEmpty
  | .many :: items, bs => anyEnd (accepts items) bs
  | _ :: _, [] => false
  | .byte c :: items, b :: bs => b == c && accepts items bs
  | .any :: items, _ :: bs => accepts items bs
  | .oneOf isNegated ms :: items, b :: bs => (ms.any (·.accepts b) != isNegated) && accepts items bs

/-- The pattern has something in it that does not stand for itself. -/
def isSpecial (items : List Item) : Bool :=
  items.any fun i => match i with
    | .byte _ => false
    | _ => true

/-- Takes the shortest or longest start of a value off that the pattern stands for. -/
def withoutStart (items : List Item) (isLongest : Bool) (value : Bytes) : Bytes :=
  let lengths := List.range (value.length + 1)
  let lengths := if isLongest then lengths.reverse else lengths
  match lengths.find? fun n => accepts items (value.take n) with
  | some n => value.drop n
  | none => value

/-- Takes the shortest or longest end of a value off that the pattern stands for. -/
def withoutEnd (items : List Item) (isLongest : Bool) (value : Bytes) : Bytes :=
  let starts := List.range (value.length + 1)
  let starts := if isLongest then starts else starts.reverse
  match starts.find? fun n => accepts items (value.drop n) with
  | some n => value.take n
  | none => value

end Pattern
end LineShell.Machine.Script
