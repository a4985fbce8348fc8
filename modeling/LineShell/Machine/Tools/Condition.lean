import LineShell.Machine.Printing.Numeral
import LineShell.Machine.Question
import LineShell.Machine.Tools.Options
import LineShell.Machine.Tools.Quoting

/-!
Conditions on texts, numbers and files, given as arguments. What up to four arguments mean depends on their
number first; more of them are read as a whole.
-/

namespace LineShell.Machine.Condition

/-- Where the reading of a condition stands: the arguments, and the place of the next one. -/
structure Reading where
  args : Array Bytes
  place : Nat := 0

/-- The reading of a condition. -/
abbrev Reader := StateT Reading Job

/-- Complains about a condition and ends the program. -/
def refuse {α : Type} (message : Bytes) : Reader α := Job.fail message

/-- The argument at a place. -/
def arg (place : Nat) : Reader Bytes := do pure ((← get).args.getD place [])

/-- The next argument so many behind. -/
def ahead (n : Nat) : Reader Bytes := do arg ((← get).place + n)

/-- How many arguments are left. -/
def left : Reader Nat := do
  let s ← get
  pure (s.args.size - s.place)

/-- Complains that an argument is missing. -/
def beyond {α : Type} : Reader α := do
  let s ← get
  refuse (Utf8.encode "missing argument after " ++ Quoting.plain (s.args.getD (s.args.size - 1) []))

/-- Goes on to the next argument; there must be one if it is said. -/
def advance (isNeeded : Bool) : Reader Unit := do
  modify fun s => { s with place := s.place + 1 }
  if isNeeded ∧ (← left) = 0 then beyond

/-- An argument that is this text. -/
def isText (a : Bytes) (text : String) : Bool := a == Utf8.encode text

/-- A question about one thing: a dash and a letter. -/
def isQuestion (a : Bytes) : Bool := a.head? == some 0x2D && a.length == 2

/-- The comparisons of numbers. -/
def numberRelations : List (String × (Int → Int → Bool)) :=
  [("-eq", fun a b => a == b), ("-ne", fun a b => a != b), ("-lt", fun a b => a < b), ("-le", fun a b => a ≤ b),
    ("-gt", fun a b => b < a), ("-ge", fun a b => b ≤ a)]

/-- A comparison of two things. -/
def isRelation (a : Bytes) : Bool :=
  ["=", "==", "!=", "-nt", "-ot", "-ef"].any (isText a) || numberRelations.any fun r => isText a r.1

/-- Reads a whole number, which may stand between white space. -/
def number (a : Bytes) : Reader Int := do
  match Numeral.decimal? a with
  | some n =>
    if n.rest.all Numeral.isSpace then pure n.value else refuse (Utf8.encode "invalid integer " ++ Quoting.plain a)
  | none => refuse (Utf8.encode "invalid integer " ++ Quoting.plain a)

/-- The letter of a question. -/
def letterOf (a : Bytes) : Char := Char.ofNat (a.getD 1 0).toNat

/-- Answers a question about one thing. -/
def answerOne (q : Bytes) : Reader Bool := do
  let letter := letterOf q
  let question? := if letter = 'a' then some .present else Question.ofLetter? letter
  if letter = 'n' ∨ letter = 'z' ∨ letter = 't' ∨ letter = 'N' ∨ question?.isSome then
    advance true
    let a ← ahead 0
    modify fun s => { s with place := s.place + 1 }
    match question? with
    | some question => do
      pure (question.answer (← Job.call (.examine ⟨a⟩ question.follows)))
    | none =>
      if letter = 'n' then pure (a ≠ [])
      else if letter = 'z' then pure (a = [])
      else if letter = 't' then do
        let _ ← number a
        pure false
      else pure (match ← Job.call (.examine ⟨a⟩ true) with
        | .ok _ => true
        | .error _ => false)
  else refuse (Quoting.plain q ++ Utf8.encode ": unary operator expected")

/-- A number as it stands, or the length of a text. -/
def numberOrLength (isLength : Bool) (a : Bytes) : Reader Int := if isLength then pure a.length else number a

/-- Answers a comparison of two things. -/
def answerTwo (isLength : Bool) : Reader Bool := do
  if isLength then advance false
  let s ← get
  let op := s.place + 1
  let relation ← arg op
  let l ← arg (op - 1)
  let isLengthBehind := decide (op + 2 < s.args.size) && isText (s.args.getD (op + 1) []) "-l"
  let r ← arg (if isLengthBehind then op + 2 else op + 1)
  let done := (if isLengthBehind then 4 else 3)
  match numberRelations.find? fun x => isText relation x.1 with
  | some (_, holds) => do
    let a ← numberOrLength isLength l
    let b ← numberOrLength isLengthBehind r
    modify fun s => { s with place := s.place + done }
    pure (holds a b)
  | none =>
    if relation.head? = some 0x2D then do
      modify fun s => { s with place := s.place + done }
      let name := String.ofList ((relation.drop 1).map fun b => Char.ofNat b.toNat)
      if isLength || isLengthBehind then refuse (relation ++ Utf8.encode " does not accept -l")
      else
        match Comparison.ofName? name with
        | none => refuse (Quoting.plain relation ++ Utf8.encode ": unknown binary operator")
        | some c =>
          let a ← Job.call (.examine ⟨l⟩ true)
          let b ← Job.call (.examine ⟨r⟩ true)
          pure (c.answer false a b)
    else do
      let l ← arg s.place
      let r ← arg (s.place + 2)
      modify fun t => { t with place := s.place + 3 }
      pure ((l == r) != isText relation "!=")

/-- One argument: it is not empty. -/
def one : Reader Bool := do
  let a ← ahead 0
  advance false
  pure (a ≠ [])

/-- Two arguments. -/
def two : Reader Bool := do
  let a ← ahead 0
  if isText a "!" then
    advance false
    pure !(← one)
  else if isQuestion a then answerOne a
  else beyond

/-- Parts of a condition with a sign between them, of which all are read. -/
def joined (sign : String) (unit : Bool) (join : Bool → Bool → Bool) (part : Reader Bool) : Nat → Bool → Reader Bool
  | 0, _ => pure unit
  | n + 1, value => do
    let value := join value (← part)
    if 0 < (← left) ∧ isText (← ahead 0) sign then
      advance false
      joined sign unit join part n value
    else pure value

/-- Reads negations; whether they are odd in number is given back. -/
def negations : Nat → Bool → Reader Bool
  | 0, isNegated => pure isNegated
  | n + 1, isNegated => do
    if 0 < (← left) ∧ isText (← ahead 0) "!" then
      advance true
      negations n !isNegated
    else pure isNegated

/-- How many arguments stand before the closing parenthesis; all that are left, if these are many. -/
def groupSize (args : List Bytes) : Nat :=
  let inside := (args.drop 1).takeWhile fun a => !isText a ")"
  if 4 ≤ inside.length then args.length else inside.length + 1

mutual

/-- Reads a condition of so many arguments, nested so deep at most. -/
def ofCount : Nat → Nat → Reader Bool
  | 0, _ => pure false
  | depth + 1, count => do
    match count with
    | 0 => pure false
    | 1 => one
    | 2 => two
    | 3 => three depth
    | 4 =>
      if isText (← ahead 0) "!" then
        advance true
        pure !(← three depth)
      else if isText (← ahead 0) "(" ∧ isText (← ahead 3) ")" then
        advance false
        let value ← two
        advance false
        pure value
      else whole depth
    | _ => whole depth

/-- Three arguments. -/
def three : Nat → Reader Bool
  | 0 => pure false
  | depth + 1 => do
    if isRelation (← ahead 1) then answerTwo false
    else if isText (← ahead 0) "!" then
      advance true
      pure !(← two)
    else if isText (← ahead 0) "(" ∧ isText (← ahead 2) ")" then
      advance false
      let value ← one
      advance false
      pure value
    else if isText (← ahead 1) "-a" ∨ isText (← ahead 1) "-o" then whole depth
    else refuse (Quoting.plain (← ahead 1) ++ Utf8.encode ": binary operator expected")

/-- Reads all that belongs to one condition. -/
def whole : Nat → Reader Bool
  | 0 => pure false
  | depth + 1 => do
    let count ← left
    if count = 0 then beyond
    else joined "-o" false (· || ·) (joined "-a" true (· && ·) (term depth) (count + 1) true) (count + 1) false

/-- Reads one part of a condition. -/
def term : Nat → Reader Bool
  | 0 => pure false
  | depth + 1 => do
    let isNegated ← negations (← left) false
    if (← left) = 0 then beyond
    else
      let first ← ahead 0
      let value ←
        if isText first "(" then do
          advance true
          let s ← get
          let value ← ofCount depth (groupSize (s.args.toList.drop s.place))
          if (← left) = 0 then refuse (Utf8.encode "')' expected")
          else if !isText (← ahead 0) ")" then
            refuse (Utf8.encode "')' expected, found " ++ Quoting.plain (← ahead 0))
          else
            advance false
            pure value
        else if 4 ≤ (← left) ∧ isText first "-l" ∧ isRelation (← ahead 2) then answerTwo true
        else if 3 ≤ (← left) ∧ isRelation (← ahead 1) then answerTwo false
        else if isQuestion first then answerOne first
        else one
      pure (value != isNegated)

end

/-- Finds out whether a condition holds. -/
def evaluate (args : List Bytes) : Job Nat := do
  if args = [] then pure 1
  else
    let (value, s) ← (ofCount (4 * args.length + 4) args.length).run { args := args.toArray }
    if s.place < s.args.size then
      Job.fail (Utf8.encode "extra argument " ++ Quoting.plain (s.args.getD s.place []))
    else pure (if value then 0 else 1)

/-- The program is called by a bracket, and its last argument closes it. -/
def isBracket (name : Bytes) : Bool := name.getLast? == some 0x5B

/-- Tests a condition. -/
def run : Job Nat := Job.withFailureCode 2 do
  let args ← Job.args
  if isBracket (← Job.name) then
    if args = [Utf8.encode "--help"] ∨ args = [Utf8.encode "--version"] then pure 0
    else if args.getLast? = some [0x5D] then evaluate args.dropLast
    else Job.failText "missing ']'"
  else evaluate args

end LineShell.Machine.Condition
