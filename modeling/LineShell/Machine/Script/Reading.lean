import LineShell.Machine.Script.Settings

/-!
The command of a shell that reads a line into variables. The line is cut at separators; the last variable is
given all that is left, without white space at its end.
-/

namespace LineShell.Machine.Script

/-- A byte of a line that was read, and whether it stood behind a backslash. -/
abbrev LineByte := UInt8 × Bool

namespace Reading

/-- How far a line has been cut: the fields that are done, from the end, and the bytes of the present one, from
the end. A field that takes the rest also knows how many of its last bytes may have to go. -/
structure Cut where
  done : List Bytes := []
  current : Bytes := []
  behindWhite : Bool := false
  loose : Option Nat := none

namespace Cut

/-- Ends a field. -/
def stop (c : Cut) : Cut := { done := c.current.reverse :: c.done }

/-- The fields. -/
def fields (c : Cut) : List Bytes :=
  let last := match c.loose with
    | none => c.current
    | some n => c.current.drop n
  (if last = [] then c.done else last.reverse :: c.done).reverse

end Cut

/-- Takes the rest of a line into the last field. What is loose at its end is white space, and one separator
before it. -/
def takeRest (separators : Bytes) (c : Cut) : List LineByte → Cut
  | [] => c
  | (b, isEscaped) :: bs =>
    let separates := separators.contains b && !isEscaped
    let isWhite := separates && Sh.standardSeparators.contains b
    let c := { c with current := b :: c.current }
    if isWhite then takeRest separators { c with loose := some ((c.loose.getD 0) + 1) } bs
    else if separates && c.behindWhite then
      takeRest separators { c with loose := c.loose.map (· + 1), behindWhite := false } bs
    else takeRest separators { c with loose := none, behindWhite := false } bs

/-- Cuts a line into at most so many fields. -/
def cut (separators : Bytes) : Nat → Cut → List LineByte → Cut
  | 0, c, bs => takeRest separators c bs
  | most + 1, c, bs =>
    match bs with
    | [] => c
    | (b, isEscaped) :: rest =>
      let separates := separators.contains b && !isEscaped
      let isWhite := separates && Sh.standardSeparators.contains b
      if c.behindWhite then
        if isWhite then cut separators (most + 1) c rest
        else if separates then cut separators (most + 1) { c with behindWhite := false } rest
        else cut separators (most + 1) { c with current := [b], behindWhite := false } rest
      else if separates then
        if isWhite ∧ c.current = [] then cut separators (most + 1) c rest
        else if most = 0 then
          takeRest separators { c with current := b :: c.current, behindWhite := isWhite, loose := some 1 } rest
        else cut separators most { c.stop with behindWhite := isWhite } rest
      else cut separators (most + 1) { c with current := b :: c.current } rest
termination_by _ _ bs => bs.length

/-- Reads a line byte by byte, so that nothing behind it is read. A backslash takes the meaning of the byte
behind it away, and joins lines. -/
def readLine (isRaw : Bool) : Nat → Bool → List LineByte → Sh (List LineByte × Bool)
  | 0, _, _ => Sh.forever
  | n + 1, isBehind, line => do
    match ← Sh.call (.read 0 1) with
    | .ok (b :: _) =>
      if b = 0 then readLine isRaw n isBehind line
      else if isBehind then
        if b = Lines.newline then readLine isRaw n false line
        else readLine isRaw n false ((b, true) :: line)
      else if !isRaw ∧ b = 0x5C then readLine isRaw n true line
      else if b = Lines.newline then pure (line.reverse, true)
      else readLine isRaw n false ((b, false) :: line)
    | .error .eintr => readLine isRaw n isBehind line
    | _ => pure (line.reverse, false)

/-- Gives variables the fields of a line. -/
def assignAll : List Bytes → List Bytes → Sh Unit
  | [], _ => pure ()
  | name :: names, fields => do
    Settings.checkName name
    Sh.assign name (fields.headD []) false
    assignAll names (fields.drop 1)

/-- Reads a line into variables. -/
def run (args : List Bytes) : Sh Nat := do
  let (given, names) ← Sh.options "p:r" args
  if names = [] then Sh.failText "arg count"
  else
    let (line, isWhole) ← readLine (given.any (·.1 == 'r')) (Nat.pow 2 62) false []
    let separators ← Sh.separators
    assignAll names (cut separators names.length {} line).fields
    pure (if isWhole then 0 else 1)

end Reading
end LineShell.Machine.Script
