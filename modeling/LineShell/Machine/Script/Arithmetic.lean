import LineShell.Machine.Script.Grammar

/-!
The expressions of scripts: whole numbers of 64 bits, variables, and the operators on them, each binding as
tightly as it does in most languages. Reading an expression gives a tree; what is wrong with one is told
together with its text.
-/

namespace LineShell.Machine.Script

namespace Arithmetic

/-- A whole number as 64 bits hold it. -/
def wrap (n : Int) : Int := Int.bmod n (Nat.pow 2 64)

/-- The operators between two numbers. -/
inductive Operator where
  | times | divide | remainder | plus | minus | shiftLeft | shiftRight
  | less | lessEqual | greater | greaterEqual | equal | unequal
  | bitAnd | bitXor | bitOr
  deriving DecidableEq, Repr

/-- An expression. -/
inductive Expression where
  | number (value : Int)
  | variable (name : Bytes)
  | negate (e : Expression)
  | complement (e : Expression)
  | not (e : Expression)
  | binary (operator : Operator) (left right : Expression)
  | both (left right : Expression)
  | either (left right : Expression)
  | choose (condition yes no : Expression)
  | assign (name : Bytes) (operator : Option Operator) (e : Expression)
  deriving Repr

/-- A piece of an expression. -/
inductive Lexeme where
  | number (value : Int)
  | name (name : Bytes)
  | symbol (text : String)
  | bad
  deriving DecidableEq, Repr

/-- The symbols, the longer ones first. -/
def symbols : List String := [
  "<<=", ">>=", "<<", ">>", "<=", ">=", "==", "!=", "&&", "||", "*=", "/=", "%=", "+=", "-=", "&=", "^=",
  "|=", "(", ")", "*", "/", "%", "+", "-", "<", ">", "=", "&", "^", "|", "~", "!", "?", ":"]

/-- The value of a digit. -/
def digitValue (b : UInt8) : Nat :=
  if isDigit b then b.toNat - 0x30
  else if 0x61 ≤ b ∧ b ≤ 0x66 then b.toNat - 0x57
  else if 0x41 ≤ b ∧ b ≤ 0x46 then b.toNat - 0x37
  else 99

/-- A number of 64 bits, or the one that is nearest to it. -/
def clamp (n : Int) : Int := max (-(Int.pow 2 63)) (min (Int.pow 2 63 - 1) n)

/-- Reads the digits of a number in a base. -/
def digits (base : Nat) (bs : Bytes) : Int × Bytes :=
  let ds := bs.takeWhile fun b => digitValue b < base
  (ds.foldl (fun v b => v * base + digitValue b) 0, bs.drop ds.length)

/-- Reads a number, whose base shows in how it begins. -/
def number (bs : Bytes) : Int × Bytes :=
  match bs with
  | 0x30 :: x :: d :: rest =>
    if (x = 0x78 ∨ x = 0x58) ∧ digitValue d < 16 then digits 16 (d :: rest) else digits 8 bs
  | 0x30 :: _ => digits 8 bs
  | _ => digits 10 bs

/-- Cuts an expression into its pieces. Every step uses up at least one byte. -/
def scan : Nat → Bytes → List Lexeme
  | 0, _ => []
  | _, [] => []
  | n + 1, b :: bs =>
    if b = 0x20 ∨ b = 0x09 ∨ b = 0x0A then scan n bs
    else if isDigit b then
      let (value, rest) := number (b :: bs)
      .number (clamp value) :: scan n rest
    else if startsName b then
      .name ((b :: bs).takeWhile isNameByte) :: scan n ((b :: bs).dropWhile isNameByte)
    else
      match symbols.find? fun s => (Utf8.encode s).isPrefixOf (b :: bs) with
      | some s => .symbol s :: scan n ((b :: bs).drop s.length)
      | none => [.bad]

/-- The operators between two numbers, and how tightly they bind: those with smaller numbers first. -/
def binaryOf : String → Option (Operator × Nat)
  | "*" => some (.times, 0)
  | "/" => some (.divide, 0)
  | "%" => some (.remainder, 0)
  | "+" => some (.plus, 1)
  | "-" => some (.minus, 1)
  | "<<" => some (.shiftLeft, 2)
  | ">>" => some (.shiftRight, 2)
  | "<" => some (.less, 3)
  | "<=" => some (.lessEqual, 3)
  | ">" => some (.greater, 3)
  | ">=" => some (.greaterEqual, 3)
  | "==" => some (.equal, 4)
  | "!=" => some (.unequal, 4)
  | "&" => some (.bitAnd, 5)
  | "^" => some (.bitXor, 6)
  | "|" => some (.bitOr, 7)
  | _ => none

/-- The operator that a symbol assigns with. -/
def assigns : String → Option (Option Operator)
  | "=" => some none
  | "*=" => some (some .times)
  | "/=" => some (some .divide)
  | "%=" => some (some .remainder)
  | "+=" => some (some .plus)
  | "-=" => some (some .minus)
  | "<<=" => some (some .shiftLeft)
  | ">>=" => some (some .shiftRight)
  | "&=" => some (some .bitAnd)
  | "^=" => some (some .bitXor)
  | "|=" => some (some .bitOr)
  | _ => none

/-- An expression that was read and the pieces that are left, or what is wrong. -/
abbrev Reading := Except String (Expression × List Lexeme)

/-- How many levels of operators there are. -/
def levels : Nat := 8

mutual

/-- Reads an expression. -/
def expression : Nat → List Lexeme → Reading
  | 0, _ => .error "too deep"
  | n + 1, .name name :: .symbol s :: rest =>
    match assigns s with
    | some operator => do
      let (e, rest) ← expression n rest
      pure (.assign name operator e, rest)
    | none => choice n (.name name :: .symbol s :: rest)
  | n + 1, ls => choice n ls

/-- Reads an expression that is no assignment. -/
def choice : Nat → List Lexeme → Reading
  | 0, _ => .error "too deep"
  | n + 1, ls => do
    let (condition, rest) ← disjunction n ls
    match rest with
    | .symbol "?" :: rest =>
      let (yes, rest) ← expression n rest
      match rest with
      | .symbol ":" :: rest =>
        let (no, rest) ← choice n rest
        pure (.choose condition yes no, rest)
      | _ => throw "expecting ':'"
    | rest => pure (condition, rest)

/-- Reads conditions of which one must hold. -/
def disjunction : Nat → List Lexeme → Reading
  | 0, _ => .error "too deep"
  | n + 1, ls => do
    let (left, rest) ← conjunction n ls
    match rest with
    | .symbol "||" :: rest =>
      let (right, rest) ← disjunction n rest
      pure (.either left right, rest)
    | rest => pure (left, rest)

/-- Reads conditions that must hold together. -/
def conjunction : Nat → List Lexeme → Reading
  | 0, _ => .error "too deep"
  | n + 1, ls => do
    let (left, rest) ← operation n (levels - 1) ls
    match rest with
    | .symbol "&&" :: rest =>
      let (right, rest) ← conjunction n rest
      pure (.both left right, rest)
    | rest => pure (left, rest)

/-- Reads operations that bind at least as tightly as a level. -/
def operation : Nat → Nat → List Lexeme → Reading
  | 0, _, _ => .error "too deep"
  | n + 1, level, ls => do
    let (left, rest) ← match level with
      | 0 => primary n ls
      | level + 1 => operation n level ls
    operationRest n level left rest

/-- Reads what follows the left side of operations of a level. -/
def operationRest : Nat → Nat → Expression → List Lexeme → Reading
  | 0, _, _, _ => .error "too deep"
  | n + 1, level, left, .symbol s :: rest =>
    match binaryOf s with
    | some (operator, l) =>
      if l = level then do
        let (right, rest) ← match level with
          | 0 => primary n rest
          | level + 1 => operation n level rest
        operationRest n level (.binary operator left right) rest
      else pure (left, .symbol s :: rest)
    | none => pure (left, .symbol s :: rest)
  | _, _, left, rest => pure (left, rest)

/-- Reads a number, a variable, or an expression in parentheses. -/
def primary : Nat → List Lexeme → Reading
  | 0, _ => .error "too deep"
  | n + 1, ls =>
    match ls with
    | .number value :: rest => pure (.number value, rest)
    | .name name :: rest => pure (.variable name, rest)
    | .symbol s :: rest =>
      match s with
      | "(" => do
        let (e, rest) ← expression n rest
        match rest with
        | .symbol ")" :: rest => pure (e, rest)
        | _ => throw "expecting ')'"
      | "+" => primary n rest
      | "-" => do
        let (e, rest) ← primary n rest
        pure (.negate e, rest)
      | "!" => do
        let (e, rest) ← primary n rest
        pure (.not e, rest)
      | "~" => do
        let (e, rest) ← primary n rest
        pure (.complement e, rest)
      | _ => throw "expecting primary"
    | _ => throw "expecting primary"

end

/-- Reads an expression, or tells what is wrong with it. -/
def read (text : Bytes) : Except String Expression := do
  let ls := scan text.length text
  let (e, rest) ← expression (32 * ls.length + 64) ls
  if rest = [] then pure e else throw "expecting EOF"

/-- One for what holds, and zero for what does not. -/
def truth (b : Bool) : Int := if b then 1 else 0

/-- The bits of a number. -/
def bits (n : Int) : Nat := (n % Int.pow 2 64).toNat

/-- The result of an operator; none if there is no such number. -/
def Operator.apply (a b : Int) : Operator → Option Int
  | .times => some (wrap (a * b))
  | .divide => if b = 0 then none else some (wrap (Int.tdiv a b))
  | .remainder => if b = 0 then none else some (Int.tmod a b)
  | .plus => some (wrap (a + b))
  | .minus => some (wrap (a - b))
  | .shiftLeft => some (wrap (a * Int.pow 2 (bits b % 64)))
  | .shiftRight => some (Int.fdiv a (Int.pow 2 (bits b % 64)))
  | .less => some (truth (a < b))
  | .lessEqual => some (truth (a ≤ b))
  | .greater => some (truth (b < a))
  | .greaterEqual => some (truth (b ≤ a))
  | .equal => some (truth (a = b))
  | .unequal => some (truth (a ≠ b))
  | .bitAnd => some (wrap (bits a &&& bits b))
  | .bitXor => some (wrap (bits a ^^^ bits b))
  | .bitOr => some (wrap (bits a ||| bits b))

end Arithmetic
end LineShell.Machine.Script
