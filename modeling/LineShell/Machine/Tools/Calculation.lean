import LineShell.Machine.Tools.Options
import LineShell.Machine.Tools.RegexReader
import LineShell.Text.ByteOrder

/-!
Calculating with arguments: whole numbers of any size, comparisons, parts of texts, and patterns that a text
begins with.
-/

namespace LineShell.Machine.Calculation

/-- Why something cannot be calculated. -/
inductive CalculationFault where
  | notANumber
  | zeroDivision
  | missingAfter (argument : Bytes)
  | unexpected (argument : Bytes)
  | unexpectedClose
  | openAfter (argument : Bytes)
  | openBefore (argument : Bytes)
  | badPattern (fault : Regex.RegexFault)
  deriving DecidableEq, Repr

/-- The complaint about it. -/
def CalculationFault.message : CalculationFault → Bytes
  | .notANumber => Utf8.encode "non-integer argument"
  | .zeroDivision => Utf8.encode "division by zero"
  | .missingAfter a => Utf8.encode "syntax error: missing argument after " ++ Quoting.plain a
  | .unexpected a => Utf8.encode "syntax error: unexpected argument " ++ Quoting.plain a
  | .unexpectedClose => Utf8.encode "syntax error: unexpected ')'"
  | .openAfter a => Utf8.encode "syntax error: expecting ')' after " ++ Quoting.plain a
  | .openBefore a => Utf8.encode "syntax error: expecting ')' instead of " ++ Quoting.plain a
  | .badPattern e => Utf8.encode e.message

/-- A value: a number or a text. -/
inductive Value where
  | number (n : Int)
  | text (bs : Bytes)
  deriving DecidableEq, Repr

namespace Value

/-- The value as a text. -/
def bytes : Value → Bytes
  | .number n => Utf8.encode (toString n)
  | .text bs => bs

/-- The number that a text is. -/
def number? : Value → Option Int
  | .number n => some n
  | .text bs =>
    let ds := if bs.head? = some 0x2D then bs.drop 1 else bs
    if ds ≠ [] ∧ ds.all Numeral.isDigit then
      some (if bs.head? = some 0x2D then -(Numeral.valueOf 10 ds : Int) else Numeral.valueOf 10 ds)
    else none

/-- The value counts as nothing. -/
def isNull : Value → Bool
  | .number n => n == 0
  | .text bs =>
    let ds := if bs.head? = some 0x2D then bs.drop 1 else bs
    bs.isEmpty || (!ds.isEmpty && ds.all (· == 0x30))

/-- The value of a truth. -/
def ofBool (b : Bool) : Value := .number (if b then 1 else 0)

end Value

/-! ### Patterns -/

/-- Where a match may end that starts at a spot, in the order in which the ends are preferred: what comes first
takes as much as it can. -/
def preferred (s : Regex.Subject) : Regex → Regex.Spot → List Regex.Spot
  | .empty, p => [p]
  | .byte b, p => (Regex.byte b).ends s [p]
  | .oneOf set, p => (Regex.oneOf set).ends s [p]
  | .anchor a, p => (Regex.anchor a).ends s [p]
  | .seq a b, p => ((preferred s a p).flatMap (preferred s b)).eraseDups
  | .either a b, p => (preferred s a p ++ preferred s b p).eraseDups
  | .repeated r least most, p =>
    let step := preferred s r
    let rec go : Nat → Nat → Regex.Spot → List Regex.Spot
      | 0, _, p => [p]
      | n + 1, done, p =>
        let more : List Regex.Spot := if most.all (done < ·) then
            ((step p).filter fun q => p.place < q.place || done < least).flatMap (go n (done + 1))
          else []
        (if least ≤ done then more ++ [p] else more).eraseDups
    go (s.line.size + least + 1) 0 p
  | .group n r, p => (preferred s r p).map fun q =>
    { q with groups := (n, p.place, q.place) :: q.groups.filter (·.1 ≠ n) }
  | .again n, p => (Regex.again n).ends s [p]

/-- A pattern has a group. -/
def hasGroup : Regex → Bool
  | .seq a b => hasGroup a || hasGroup b
  | .either a b => hasGroup a || hasGroup b
  | .repeated r _ _ => hasGroup r
  | .group _ _ => true
  | _ => false

/-- What a pattern matches at the start of a text: what its first group does, or how many bytes. -/
def beginning (text : Bytes) (pattern : Bytes) : Except CalculationFault Value :=
  match Regex.read false pattern with
  | .error e => .error (.badPattern e)
  | .ok (r, _) =>
    let subject : Regex.Subject := ⟨text.toArray, false⟩
    if !hasGroup r then
      .ok (.number (((r.ends subject [{ place := 0 }]).map Regex.Spot.place).max?.getD 0 : Nat))
    else
      let found := preferred subject r { place := 0 }
      let longest := (found.map Regex.Spot.place).max?.getD 0
      match found.find? (·.place = longest) with
      | none => .ok (.text [])
      | some spot =>
        match spot.groups.lookup 1 with
        | some (start, stop) => .ok (.text ((text.drop start).take (stop - start)))
        | none => .ok (.text [])

/-! ### Operators -/

/-- An operator between two values. -/
inductive Operator where
  | either
  | both
  | less
  | lessOrSame
  | same
  | different
  | greaterOrSame
  | greater
  | plus
  | minus
  | times
  | divided
  | remainder
  | match_
  deriving DecidableEq, Repr

/-- The operators by their signs, those that bind least first. -/
def levels : List (List (String × Operator)) :=
  [[("|", .either)], [("&", .both)],
    [("<", .less), ("<=", .lessOrSame), ("=", .same), ("==", .same), ("!=", .different), (">=", .greaterOrSame),
      (">", .greater)],
    [("+", .plus), ("-", .minus)], [("*", .times), ("/", .divided), ("%", .remainder)], [(":", .match_)]]

/-- Compares two values, as numbers if both are. -/
def compareValues (a b : Value) : Ordering :=
  match a.number?, b.number? with
  | some x, some y => compare x y
  | _, _ => compareBytes a.bytes b.bytes

/-- Calculates with two numbers. -/
def arithmetic (f : Int → Int → Int) (dividing : Bool) (a b : Value) : Except CalculationFault Value :=
  match a.number?, b.number? with
  | some x, some y => if dividing ∧ y = 0 then .error .zeroDivision else .ok (.number (f x y))
  | _, _ => .error .notANumber

/-- Applies an operator. -/
def Operator.apply (op : Operator) (a b : Value) : Except CalculationFault Value :=
  match op with
  | .either => .ok (if !a.isNull then a else if !b.isNull then b else .number 0)
  | .both => .ok (if a.isNull || b.isNull then .number 0 else a)
  | .less => .ok (.ofBool (compareValues a b == .lt))
  | .lessOrSame => .ok (.ofBool (compareValues a b != .gt))
  | .same => .ok (.ofBool (compareValues a b == .eq))
  | .different => .ok (.ofBool (compareValues a b != .eq))
  | .greaterOrSame => .ok (.ofBool (compareValues a b != .lt))
  | .greater => .ok (.ofBool (compareValues a b == .gt))
  | .plus => arithmetic (· + ·) false a b
  | .minus => arithmetic (· - ·) false a b
  | .times => arithmetic (· * ·) false a b
  | .divided => arithmetic Int.tdiv true a b
  | .remainder => arithmetic Int.tmod true a b
  | .match_ => beginning a.bytes b.bytes

/-- The second value does not matter. -/
def Operator.isSettled (op : Operator) (a : Value) : Bool :=
  match op with
  | .either => !a.isNull
  | .both => a.isNull
  | _ => false

/-- What is left of the arguments, and the last one that was used. -/
structure Reading where
  rest : List Bytes
  last : Bytes := []

/-- The result of reading: a value, and where the reading stands. -/
abbrev Result := Except CalculationFault (Value × Reading)

/-- Takes the next argument. -/
def Reading.take (s : Reading) : Except CalculationFault (Bytes × Reading) :=
  match s.rest with
  | [] => .error (.missingAfter s.last)
  | a :: rest => .ok (a, ⟨rest, a⟩)

/-- The operator that comes next, if it is one of some. -/
def Reading.operator? (s : Reading) (ops : List (String × Operator)) : Option (Operator × Reading) :=
  match s.rest with
  | [] => none
  | a :: rest => (ops.find? fun o => Utf8.encode o.1 == a).map fun o => (o.2, ⟨rest, a⟩)

/-- Reads operators of one level between parts. Every round uses up an argument. -/
def chain (ops : List (String × Operator)) (part : Bool → Reading → Result) (counts : Bool) :
    Nat → Value → Reading → Result
  | 0, value, s => .ok (value, s)
  | n + 1, value, s =>
    match s.operator? ops with
    | none => .ok (value, s)
    | some (op, s) => do
      let counting := counts && !op.isSettled value
      let (other, s) ← part counting s
      let value ← if counts then op.apply value other else pure value
      chain ops part counts n value s

/-- Reads parts of one level with operators between them, and so on with those that bind more. -/
def level (unit : Bool → Reading → Result) : List (List (String × Operator)) → Bool → Reading → Result
  | [], counts, s => unit counts s
  | ops :: more, counts, s => do
    let (value, s) ← level unit more counts s
    chain ops (level unit more) counts s.rest.length.succ value s

/-- The part of a text from a place on, counted from one. -/
def part (text : Bytes) (start length : Int) : Bytes :=
  if start ≤ 0 ∨ length ≤ 0 then [] else (text.drop (start.toNat - 1)).take length.toNat

/-- The place of the first byte of a text that is one of some, counted from one. -/
def placeOfAny (text chars : Bytes) : Nat := (text.findIdx? chars.contains).elim 0 (· + 1)

/-- Reads what has no operator between values, nested so deep at most. -/
def unit : Nat → Bool → Reading → Result
  | 0, _, s => .error (.missingAfter s.last)
  | depth + 1, counts, s => do
    let (a, s) ← s.take
    let word (text : String) : Bool := a == Utf8.encode text
    if word "+" then
      let (b, s) ← s.take
      pure (.text b, s)
    else if word "length" then
      let (v, s) ← unit depth counts s
      pure (.number v.bytes.length, s)
    else if word "match" then
      let (l, s) ← unit depth counts s
      let (r, s) ← unit depth counts s
      pure (← if counts then beginning l.bytes r.bytes else pure l, s)
    else if word "index" then
      let (l, s) ← unit depth counts s
      let (r, s) ← unit depth counts s
      pure (.number (placeOfAny l.bytes r.bytes), s)
    else if word "substr" then
      let (l, s) ← unit depth counts s
      let (i, s) ← unit depth counts s
      let (n, s) ← unit depth counts s
      match i.number?, n.number? with
      | some i, some n => pure (.text (part l.bytes i n), s)
      | _, _ => pure (.text [], s)
    else if word "(" then
      let (v, s) ← level (unit depth) levels counts s
      match s.rest with
      | [] => throw (.openAfter s.last)
      | b :: rest => if b = Utf8.encode ")" then pure (v, ⟨rest, b⟩) else throw (.openBefore b)
    else if word ")" then throw .unexpectedClose
    else pure (.text a, s)

/-- Calculates the value of arguments. -/
def evaluate (name : Bytes) (args : List Bytes) : Except CalculationFault Value := do
  let (value, s) ← level (unit args.length.succ) levels true ⟨args, name⟩
  match s.rest with
  | [] => pure value
  | a :: _ => throw (.unexpected a)

/-- Prints the value of arguments. -/
def run : Job Nat := Job.withFailureCode 3 do
  let args ← Job.args
  let args := if args.head? = some [0x2D, 0x2D] then args.drop 1 else args
  if args = [] then
    Job.complainText "missing operand"
    Job.hint
    Job.exit 2
  else if args = [Utf8.encode "--help"] ∨ args = [Utf8.encode "--version"] then pure 0
  else
    match evaluate (← Job.name) args with
    | .error e =>
      Job.complain e.message
      Job.exit 2
    | .ok value =>
      Job.printLine value.bytes
      pure (if value.isNull then 1 else 0)

end LineShell.Machine.Calculation
