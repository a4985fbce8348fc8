import LineShell.Machine.Printing.Numeral
import LineShell.Machine.Question
import LineShell.Machine.Script.Shell

/-!
The command of a shell that tests conditions: comparisons of texts and numbers, questions about files, and
conditions that are joined. What an argument means hangs on those around it.
-/

namespace LineShell.Machine.Script

namespace Testing

/-- What an argument is as an operator. -/
inductive Operator where
  | unary (letter : Char)
  | binary (name : String)
  | not
  | and
  | or
  | opens
  | closes
  deriving DecidableEq, Repr

/-- The letters that ask about one argument. -/
def unaryLetters : List Char := "rwxefdcbpugkstznhOGLS".toList

/-- The operators between two arguments. -/
def binaryNames : List String :=
  ["=", "!=", "<", ">", "-eq", "-ne", "-ge", "-gt", "-le", "-lt", "-nt", "-ot", "-ef"]

/-- The operator that an argument is. -/
def operator? (a : Bytes) : Option Operator :=
  match Utf8.decode? a with
  | none => none
  | some text =>
    match text with
    | "!" => some .not
    | "-a" => some .and
    | "-o" => some .or
    | "(" => some .opens
    | ")" => some .closes
    | text =>
      if binaryNames.contains text then some (.binary text)
      else
        match text.toList with
        | ['-', c] => if unaryLetters.contains c then some (.unary c) else none
        | _ => none

/-- The argument is an operator between two others. -/
def isBinary (a : Bytes) : Bool :=
  match operator? a with
  | some (.binary _) => true
  | _ => false

/-- What the first of some arguments is; none if it stands for itself. -/
def first? (args : List Bytes) : Option Operator :=
  match args with
  | [] => none
  | a :: rest =>
    match operator? a with
    | some (.unary letter) =>
      match rest with
      | [] => none
      | [_] => some (.unary letter)
      | b :: _ => if isBinary b then none else some (.unary letter)
    | some .opens => if rest = [] then none else some .opens
    | o => o

/-- Testing, with the arguments from the one on that is looked at. -/
abbrev Test := StateT (List Bytes) Sh

/-- Complains that something cannot stand where it does. -/
def refuse {α : Type} (front : Bytes) (message : String) : Test α :=
  Sh.fail ((if front = [] then [] else front ++ Utf8.encode ": ") ++ Utf8.encode message)

/-- The number that an argument is. -/
def numberOf (a : Bytes) : Sh Int :=
  match Numeral.decimal? a with
  | some n =>
    if n.rest.all Numeral.isSpace ∧ !n.isTooLarge then pure n.value
    else Sh.fail (Utf8.encode "Illegal number: " ++ a)
  | none => Sh.fail (Utf8.encode "Illegal number: " ++ a)

/-- The answer to a question about one argument. -/
def ask (letter : Char) (a : Bytes) : Test Bool := do
  match letter with
  | 'z' => pure a.isEmpty
  | 'n' => pure !a.isEmpty
  | 't' => do
    let _ ← numberOf a
    pure false
  | letter =>
    match Question.ofLetter? letter with
    | none => pure false
    | some q => pure (q.answer (← Sh.call (.examine ⟨a⟩ q.follows)))

/-- The answer to a question about two arguments. -/
def compare (name : String) (left right : Bytes) : Test Bool := do
  let numbers (holds : Int → Int → Bool) : Test Bool := do
    let a ← numberOf left
    let b ← numberOf right
    pure (holds a b)
  match name with
  | "=" => pure (left == right)
  | "!=" => pure (left != right)
  | "<" => pure (compareBytes left right == .lt)
  | ">" => pure (compareBytes left right == .gt)
  | "-eq" => numbers (· == ·)
  | "-ne" => numbers (· != ·)
  | "-ge" => numbers fun a b => b ≤ a
  | "-gt" => numbers fun a b => b < a
  | "-le" => numbers fun a b => a ≤ b
  | "-lt" => numbers fun a b => a < b
  | name =>
    match Comparison.ofName? (String.ofList (name.toList.drop 1)) with
    | none => pure false
    | some c =>
      let l ← Sh.call (.examine ⟨left⟩ true)
      let r ← Sh.call (.examine ⟨right⟩ true)
      pure (c.answer true l r)

/-- Goes on by so many arguments. -/
def advance (n : Nat) : Test Unit := modify (·.drop n)

mutual

/-- Conditions of which one must hold; afterwards the last argument of them is looked at. -/
def either : Nat → Option Operator → Test Bool
  | 0, _ => pure false
  | n + 1, o => do
    let holds ← both n o
    if first? ((← get).drop 1) = some .or then
      advance 2
      let rest ← either n (first? (← get))
      pure (holds || rest)
    else pure holds

/-- Conditions that must hold together. -/
def both : Nat → Option Operator → Test Bool
  | 0, _ => pure false
  | n + 1, o => do
    let holds ← negated n o
    if first? ((← get).drop 1) = some .and then
      advance 2
      let rest ← both n (first? (← get))
      pure (holds && rest)
    else pure holds

/-- A condition that may be negated. -/
def negated : Nat → Option Operator → Test Bool
  | 0, _ => pure false
  | n + 1, o => do
    if o = some .not then
      let rest := (← get).drop 1
      if rest = [] then pure true
      else
        set rest
        pure !(← negated n (first? rest))
    else primary n o

/-- One condition. -/
def primary : Nat → Option Operator → Test Bool
  | 0, _ => pure false
  | n + 1, o => do
    let args ← get
    match args with
    | [] => pure false
    | a :: rest =>
      match o with
      | some .opens =>
        set rest
        if first? rest = some .closes then pure false
        else
          let holds ← either n (first? rest)
          advance 1
          if first? (← get) = some .closes then pure holds else refuse [] "closing paren expected"
      | some (.unary letter) =>
        match rest with
        | [] => refuse a "argument expected"
        | b :: _ =>
          set rest
          ask letter b
      | _ =>
        match first? rest, rest with
        | some (.binary name), operator :: right =>
          match right with
          | [] => refuse operator "argument expected"
          | b :: _ =>
            set right
            compare name a b
        | _, _ => pure !a.isEmpty

end

/-- Tests all arguments, and sees to it that none is left over. -/
def whole (args : List Bytes) (o : Option Operator) : Sh Bool := do
  let (holds, rest) ← (either (8 * args.length + 16) o).run args
  match rest with
  | a :: _ :: _ => Sh.fail (a ++ Utf8.encode ": unexpected operator")
  | _ => pure holds

/-- Tests the arguments; few of them are looked at as a whole first. -/
def holds : List Bytes → Sh Bool
  | [] => pure false
  | a :: rest => do
    let args := a :: rest
    let isPlain := match args with
      | [_, o, _] => isBinary o
      | _ => false
    if isPlain then whole args none
    else if args.length = 3 ∨ args.length = 4 then
      if operator? a = some .opens ∧ (args.getLast?.bind operator?) = some .closes then
        let inner := rest.dropLast
        whole inner (first? inner)
      else if operator? a = some .not then do pure !(← holds rest)
      else whole args (first? args)
    else whole args (first? args)

/-- Tests conditions. -/
def run (name : Bytes) (args : List Bytes) : Sh Nat := do
  let args ← if name.head? = some 0x5B then
      (if args.getLast? = some [0x5D] then pure args.dropLast else Sh.failText "missing ]")
    else pure args
  pure (if ← holds args then 0 else 1)

end Testing
end LineShell.Machine.Script
