import LineShell.Machine.Script.Input

/-!
Reading the words of a script. What a byte means hangs on where it stands: outside of quotes, between double
quotes, in the braces of a parameter, in an expression, or in a document. A word may hold commands; how
these are read is left open here.
-/

namespace LineShell.Machine.Script

/-- Where a byte stands. -/
inductive Context where
  | bare
  | braces
  | quotes
  | bracesInQuotes
  | document
  | expression
  deriving DecidableEq, Repr

/-- All bytes that stand here are quoted. -/
def Context.isQuoted : Context → Bool
  | .bare | .braces => false
  | _ => true

/-- A word as far as it is read: its pieces, and the bytes of the last one, both from the end. -/
structure Draft where
  pieces : List WordPart := []
  bytes : Bytes := []
  isQuoted : Bool := false
  hasBytes : Bool := false

namespace Draft

/-- Puts the last bytes among the pieces. -/
def close (d : Draft) : Draft :=
  if d.hasBytes then { pieces := .text d.isQuoted d.bytes.reverse :: d.pieces } else d

/-- Adds a byte. -/
def add (d : Draft) (isQuoted : Bool) (b : UInt8) : Draft :=
  if d.hasBytes ∧ d.isQuoted = isQuoted then { d with bytes := b :: d.bytes }
  else { pieces := d.close.pieces, bytes := [b], isQuoted, hasBytes := true }

/-- Adds a piece. -/
def addPart (d : Draft) (part : WordPart) : Draft := { pieces := part :: d.close.pieces }

/-- Remembers that there are quotes, even if nothing stands between them. -/
def mark (d : Draft) : Draft := d.addPart (.text true [])

/-- Adds pieces. -/
def addParts (d : Draft) (parts : List WordPart) : Draft := { pieces := parts.reverse ++ d.close.pieces }

/-- The word. -/
def word (d : Draft) : Word := d.close.pieces.reverse

end Draft

namespace Words

/-- The bytes that end a word. -/
def endsWord (b : UInt8) : Bool := (Utf8.encode " \t\n;&|<>()").contains b

/-- The bytes that are parameters by themselves. -/
def isSpecial (b : UInt8) : Bool := (Utf8.encode "@*#?-$!").contains b || isDigit b

/-- Takes bytes as long as they are of a kind. -/
def takeWhile (isWanted : UInt8 → Bool) : Parse Bytes := go (Nat.pow 2 62) []
where
  go : Nat → Bytes → Parse Bytes
    | 0, taken => pure taken.reverse
    | n + 1, taken => do
      match ← Parse.peekJoined with
      | some b =>
        if isWanted b then
          Parse.skip
          go n (b :: taken)
        else pure taken.reverse
      | none => pure taken.reverse

/-- Takes the rest of a text between single quotes. -/
def singleQuoted : Nat → Draft → Parse Draft
  | 0, d => pure d
  | n + 1, d => do
    match ← Parse.take with
    | none => Parse.refuseText "Unterminated quoted string"
    | some 0x27 => pure d
    | some b => singleQuoted n (d.add true b)

/-- Takes the text of a command between backquotes. -/
def backquoted (isQuoted : Bool) : Nat → Bytes → Parse Bytes
  | 0, text => pure text.reverse
  | n + 1, text => do
    let _ ← Parse.peekJoined
    match ← Parse.take with
    | none => Parse.refuseText "EOF in backquote substitution"
    | some 0x60 => pure text.reverse
    | some 0x5C =>
      match ← Parse.take with
      | none => Parse.refuseText "EOF in backquote substitution"
      | some b =>
        if b = 0x5C ∨ b = 0x60 ∨ b = 0x24 ∨ (isQuoted ∧ b = 0x22) then backquoted isQuoted n (b :: text)
        else backquoted isQuoted n (b :: 0x5C :: text)
    | some b => backquoted isQuoted n (b :: text)

/-- How a command that stands in a word is read; there may have to be a closing parenthesis behind it. -/
abbrev Inner := Bool → Parse Command

/-- Reads a command between backquotes. -/
def oldOutput (inner : Inner) (isQuoted : Bool) : Parse WordPart := do
  let line := (← get).line
  let text ← backquoted isQuoted (Nat.pow 2 62) []
  pure (.output isQuoted (← Parse.within text line (inner false)))

/-- The name of a parameter between braces, and whether its length is wanted. -/
def bracedName : Parse (Option (Bytes × Bool)) := do
  match ← Parse.peekJoined with
  | none => pure none
  | some 0x7D => pure none
  | some b =>
    if startsName b then pure (some (← takeWhile isNameByte, false))
    else if isDigit b then pure (some (← takeWhile isDigit, false))
    else
      Parse.skip
      if b = 0x23 then
        match ← Parse.peekJoined with
        | some c =>
          if isNameByte c then
            pure (some (← takeWhile (if isDigit c then isDigit else isNameByte), true))
          else if isSpecial c then
            Parse.need 2
            if (← get).unread[1]? = some 0x7D then
              Parse.skip
              pure (some ([c], true))
            else pure (some ([b], false))
          else pure (some ([b], false))
        | none => pure (some ([b], false))
      else if isSpecial b then pure (some ([b], false))
      else pure none

mutual

/-- Reads the pieces of a word up to the end of its context. `isInner` says that quotes are open inside of
braces, and `depth` how many parentheses are open in an expression. -/
def pieces (inner : Inner) : Nat → Context → Bool → Nat → Draft → Parse Draft
  | 0, _, _, _, d => pure d
  | n + 1, context, isInner, depth, d => do
    let on (d : Draft) := pieces inner n context isInner depth d
    match ← Parse.peekJoined with
    | none =>
      match context with
      | .bare | .document => pure d
      | .braces => Parse.refuseText "Missing '\x7d'"
      | .quotes | .bracesInQuotes => Parse.refuseText "Unterminated quoted string"
      | .expression => Parse.refuseText "Missing '))'"
    | some b =>
      if context = .bare ∧ endsWord b then pure d
      else
        Parse.skip
        let isQuoted := context.isQuoted
        if b = 0x5C then
          match ← Parse.take with
          | none => on (d.add true 0x5C)
          | some c =>
            let escapes :=
              if isQuoted then
                c = 0x5C ∨ c = 0x60 ∨ c = 0x24 ∨ (c = 0x22 ∧ context ≠ .document) ∨
                  (c = 0x7D ∧ context = .bracesInQuotes)
              else True
            if escapes then on (d.add true c) else on ((d.add true 0x5C).add true c)
        else if b = 0x24 then
          match ← dollar inner n isQuoted with
          | none => on (d.add isQuoted b)
          | some part => on (d.addPart part)
        else if b = 0x60 then on (d.addPart (← oldOutput inner isQuoted))
        else if b = 0x7D ∧ (context = .braces ∨ (context = .bracesInQuotes ∧ !isInner)) then pure d
        else if b = 0x22 then
          match context with
          | .bare | .braces =>
            let quoted := (← pieces inner n .quotes false 0 {}).word
            match quoted with
            | [.parameter true [0x40] .value] => on (d.addParts quoted)
            | quoted => on (d.mark.addParts quoted)
          | .quotes => pure d
          | .bracesInQuotes => pieces inner n context (!isInner) depth d.mark
          | .document | .expression => on (d.add true b)
        else if b = 0x27 ∧ !isQuoted then on (← singleQuoted n d.mark)
        else if b = 0x28 ∧ context = .expression then
          pieces inner n context isInner (depth + 1) (d.add true b)
        else if b = 0x29 ∧ context = .expression then
          if depth ≠ 0 then pieces inner n context isInner (depth - 1) (d.add true b)
          else if ← Parse.accepts 0x29 then pure d
          else on (d.add true b)
        else on (d.add isQuoted b)

/-- Reads what follows a dollar sign; none if this stands for itself. -/
def dollar (inner : Inner) : Nat → Bool → Parse (Option WordPart)
  | 0, _ => pure none
  | n + 1, isQuoted => do
    match ← Parse.peekJoined with
    | none => pure none
    | some b =>
      if b = 0x28 then
        Parse.skip
        if ← Parse.accepts 0x28 then
          let d ← pieces inner n .expression false 0 {}
          pure (some (.number isQuoted d.word))
        else
          let announced := (← get).announced
          modify fun s => { s with announced := [] }
          let body ← inner true
          modify fun s => { s with announced := announced }
          pure (some (.output isQuoted body))
      else if b = 0x7B then
        Parse.skip
        match ← bracedName with
        | none =>
          let d ← pieces inner n (if isQuoted then .bracesInQuotes else .braces) false 0 {}
          pure (some (.parameter isQuoted d.word.literal .malformed))
        | some (name, true) =>
          let _ ← pieces inner n (if isQuoted then .bracesInQuotes else .braces) false 0 {}
          pure (some (.parameter isQuoted name .length))
        | some (name, false) => pure (some (.parameter isQuoted name (← use inner n isQuoted)))
      else if startsName b then pure (some (.parameter isQuoted (← takeWhile isNameByte) .value))
      else if isSpecial b then
        Parse.skip
        pure (some (.parameter isQuoted [b] .value))
      else pure none

/-- Reads what is made of a parameter between braces, up to the closing one. -/
def use (inner : Inner) : Nat → Bool → Parse ParameterUse
  | 0, _ => pure .malformed
  | n + 1, isQuoted => do
    let rest (context : Context) : Parse Word := do pure (← pieces inner n context false 0 {}).word
    let same : Context := if isQuoted then .bracesInQuotes else .braces
    let isNullToo ← Parse.accepts 0x3A
    match ← Parse.peekJoined with
    | none =>
      let _ ← rest same
      pure .malformed
    | some b =>
      Parse.skip
      if b = 0x7D then
        if isNullToo then
          let _ ← rest same
          pure .malformed
        else pure .value
      else if b = 0x2D then pure (.orElse isNullToo (← rest same))
      else if b = 0x2B then pure (.andThen isNullToo (← rest same))
      else if b = 0x3F then pure (.orComplain isNullToo (← rest same))
      else if b = 0x3D then pure (.orAssign isNullToo (← rest same))
      else if (b = 0x25 ∨ b = 0x23) ∧ !isNullToo then
        let isLongest ← Parse.accepts b
        pure (.without (b = 0x25) isLongest (← rest .braces))
      else
        let _ ← rest same
        pure .malformed

end

/-- Reads a word. -/
def read (inner : Inner) (context : Context) : Parse Word := do
  pure (← pieces inner (Nat.pow 2 62) context false 0 {}).word

end Words
end LineShell.Machine.Script
