import LineShell.Toml.Value

/-!
Reading the text of a TOML document into its statements. A reader takes what it can from the front of
the text and leaves the rest; a text that it cannot begin with is refused, without a reason. How deep
values may be nested is bounded, and the bound is what the reader of values recurses on.
-/

namespace LineShell.Toml

/-- A reader: what it found, and the characters behind it. -/
abbrev Reader (α : Type) := List Char → Option (α × List Char)

namespace Reader

/-! ### Blanks, comments and ends of lines -/

/-- A space or a tab. -/
def isBlank (c : Char) : Bool := c == ' ' || c == '\t'

/-- Leaves out blanks. -/
def skipBlanks (cs : List Char) : List Char := cs.dropWhile isBlank

/-- A character that may stand in a comment. -/
def isCommentChar (c : Char) : Bool := c == '\t' || (' ' ≤ c && c ≤ '~') || '\x80' ≤ c

/-- Takes the end of a line. -/
def newline? : List Char → Option (List Char)
  | '\n' :: cs => some cs
  | '\r' :: '\n' :: cs => some cs
  | _ => none

/-- Takes the end of a line, or finds the end of the text. -/
def lineEnd? : List Char → Option (List Char)
  | [] => some []
  | cs => newline? cs

/-- Leaves out a comment, if one stands here. -/
def skipComment : List Char → List Char
  | '#' :: cs => cs.dropWhile isCommentChar
  | cs => cs

/-- Takes the rest of a line, on which nothing but a comment may stand. -/
def restOfLine? (cs : List Char) : Option (List Char) := lineEnd? (skipComment (skipBlanks cs))

/-- Leaves out blanks, ends of lines and comments with their ends. Every step uses up a character. -/
def skipSpace : Nat → List Char → List Char
  | 0, cs => cs
  | n + 1, cs =>
    match cs with
    | '#' :: _ =>
      match newline? (skipComment cs) with
      | some rest => skipSpace n rest
      | none => cs
    | c :: rest =>
      if isBlank c then skipSpace n rest
      else match newline? cs with
        | some rest => skipSpace n rest
        | none => cs
    | [] => []

/-! ### Strings -/

/-- The value of a hexadecimal digit. -/
def hexDigit? (c : Char) : Option Nat :=
  if c.isDigit then some (c.toNat - '0'.toNat)
  else if 'a' ≤ c ∧ c ≤ 'f' then some (c.toNat - 'a'.toNat + 10)
  else if 'A' ≤ c ∧ c ≤ 'F' then some (c.toNat - 'A'.toNat + 10)
  else none

/-- Takes a character that is given by so many hexadecimal digits. -/
def numberedChar (count : Nat) : Reader Char := fun cs => do
  let digits ← (cs.take count).mapM hexDigit?
  let n := digits.foldl (fun v d => v * 16 + d) 0
  if digits.length = count ∧ n.isValidChar then pure (Char.ofNat n, cs.drop count) else none

/-- Takes what follows a backslash. -/
def escape : Reader Char
  | 'b' :: cs => some ('\x08', cs)
  | 'f' :: cs => some ('\x0c', cs)
  | 'n' :: cs => some ('\n', cs)
  | 'r' :: cs => some ('\r', cs)
  | 't' :: cs => some ('\t', cs)
  | '"' :: cs => some ('"', cs)
  | '\\' :: cs => some ('\\', cs)
  | 'u' :: cs => numberedChar 4 cs
  | 'U' :: cs => numberedChar 8 cs
  | _ => none

/-- A character that a string on one line may hold as it is, the quote that ends it apart. -/
def isStringChar (c : Char) : Bool := isCommentChar c

/-- Takes the rest of a string with escapes. Every step uses up a character. -/
def basic : Nat → Reader (List Char)
  | 0, _ => none
  | _, [] => none
  | n + 1, c :: cs =>
    if c = '"' then some ([], cs)
    else if c = '\\' then do
      let (d, cs) ← escape cs
      let (rest, cs) ← basic n cs
      pure (d :: rest, cs)
    else if isStringChar c then do
      let (rest, cs) ← basic n cs
      pure (c :: rest, cs)
    else none

/-- Takes the rest of a string without escapes. -/
def literal : Reader (List Char)
  | [] => none
  | c :: cs =>
    if c = '\'' then some ([], cs)
    else if isStringChar c then do
      let (rest, cs) ← literal cs
      pure (c :: rest, cs)
    else none

/-- How many times a quote stands at the front. -/
def countQuotes (quote : Char) (cs : List Char) : Nat := (cs.takeWhile (· == quote)).length

/-- Leaves out blanks and ends of lines. Every step uses up a character. -/
def skipWhite : Nat → List Char → List Char
  | 0, cs => cs
  | n + 1, cs =>
    match newline? (skipBlanks cs) with
    | some rest => skipWhite n rest
    | none => skipBlanks cs

/-- Leaves out the end of a line behind a backslash, and all white space after it. -/
def skipFold (cs : List Char) : Option (List Char) :=
  (newline? (skipBlanks cs)).map fun rest => skipWhite rest.length rest

/-- Takes the rest of a string over several lines. One or two quotes may stand in it, also directly
before the three that end it. Every step uses up a character. -/
def lines (quote : Char) : Nat → Reader (List Char)
  | 0, _ => none
  | _, [] => none
  | n + 1, c :: cs =>
    if c = quote then
      let count := countQuotes quote (c :: cs)
      if 3 ≤ count then
        let extra := min (count - 3) 2
        some (List.replicate extra quote, (c :: cs).drop (extra + 3))
      else do
        let (rest, cs) ← lines quote n ((c :: cs).drop count)
        pure (List.replicate count quote ++ rest, cs)
    else if c = '\\' ∧ quote = '"' then
      match skipFold cs with
      | some cs => lines quote n cs
      | none => do
        let (d, cs) ← escape cs
        let (rest, cs) ← lines quote n cs
        pure (d :: rest, cs)
    else
      match newline? (c :: cs) with
      | some cs => do
        let (rest, cs) ← lines quote n cs
        pure ('\n' :: rest, cs)
      | none =>
        if isStringChar c then do
          let (rest, cs) ← lines quote n cs
          pure (c :: rest, cs)
        else none

/-- Leaves out the end of the line on which a string over several lines begins. -/
def skipFirstNewline (cs : List Char) : List Char := (newline? cs).getD cs

/-- Takes a string on one line. -/
def shortString : Reader String
  | '"' :: cs => (basic (cs.length + 1) cs).map fun (s, cs) => (String.ofList s, cs)
  | '\'' :: cs => (literal cs).map fun (s, cs) => (String.ofList s, cs)
  | _ => none

/-- Takes a string of any kind. -/
def string : Reader String
  | '"' :: '"' :: '"' :: cs =>
    let cs := skipFirstNewline cs
    (lines '"' (cs.length + 1) cs).map fun (s, cs) => (String.ofList s, cs)
  | '\'' :: '\'' :: '\'' :: cs =>
    let cs := skipFirstNewline cs
    (lines '\'' (cs.length + 1) cs).map fun (s, cs) => (String.ofList s, cs)
  | cs => shortString cs

/-! ### Keys -/

/-- A character of a key without quotes. -/
def isBareKeyChar (c : Char) : Bool := c.isAlphanum || c == '_' || c == '-'

/-- Takes one part of a key. -/
def keyPart : Reader String
  | [] => none
  | c :: cs =>
    if c = '"' ∨ c = '\'' then shortString (c :: cs)
    else
      match (c :: cs).takeWhile isBareKeyChar with
      | [] => none
      | part => some (String.ofList part, (c :: cs).dropWhile isBareKeyChar)

/-- Takes the parts of a key, with points between them. Every step uses up a character. -/
def keyParts : Nat → Reader (List String)
  | 0, _ => none
  | n + 1, cs => do
    let (part, cs) ← keyPart (skipBlanks cs)
    match skipBlanks cs with
    | '.' :: cs =>
      let (parts, cs) ← keyParts n cs
      pure (part :: parts, cs)
    | cs => pure ([part], cs)

/-- How deep arrays, inline tables and dotted keys may be nested. -/
def maxDepth : Nat := 127

/-- Takes a key with the blanks around it. -/
def key : Reader (List String) := fun cs => do
  let (parts, cs) ← keyParts (cs.length + 1) cs
  if parts.length ≤ maxDepth then pure (parts, cs) else none

/-! ### Numbers and dates -/

/-- Takes digits, between any two of which one underscore may stand. -/
def digits (isDigit : Char → Bool) : Reader (List Char)
  | [] => none
  | [c] => if isDigit c then some ([c], []) else none
  | c :: d :: cs =>
    if !isDigit c then none
    else if d = '_' then (digits isDigit cs).map fun (ds, cs) => (c :: ds, cs)
    else if isDigit d then (digits isDigit (d :: cs)).map fun (ds, cs) => (c :: ds, cs)
    else some ([c], d :: cs)

/-- The number that digits stand for. -/
def natOf (base : Nat) (ds : List Char) : Nat :=
  ds.foldl (fun v c => v * base + (hexDigit? c).getD 0) 0

/-- Takes a sign, if one stands here. -/
def sign : List Char → Bool × List Char
  | '-' :: cs => (true, cs)
  | '+' :: cs => (false, cs)
  | cs => (false, cs)

/-- Takes a decimal number, which has no zero in front of another digit. -/
def decimal : Reader (List Char)
  | '0' :: cs => some (['0'], cs)
  | cs => digits Char.isDigit cs

/-- The greatest whole number. -/
def maxInteger : Nat := 9223372036854775807

/-- Takes a whole number in a base. -/
def based (base : Nat) (isDigit : Char → Bool) : Reader Int := fun cs => do
  let (ds, cs) ← digits isDigit cs
  let n := natOf base ds
  if n ≤ maxInteger then pure ((n : Int), cs) else none

/-- Takes a whole number. -/
def integer : Reader Int
  | '0' :: 'x' :: cs => based 16 (fun c => (hexDigit? c).isSome) cs
  | '0' :: 'o' :: cs => based 8 (fun c => '0' ≤ c && c ≤ '7') cs
  | '0' :: 'b' :: cs => based 2 (fun c => c == '0' || c == '1') cs
  | cs => do
    let (isNegative, cs) := sign cs
    let (ds, cs) ← decimal cs
    let n := natOf 10 ds
    if isNegative then
      if n ≤ maxInteger + 1 then pure (-(n : Int), cs) else none
    else if n ≤ maxInteger then pure ((n : Int), cs)
    else none

/-- Takes the exponent of a number. -/
def exponent : Reader Int
  | 'e' :: cs | 'E' :: cs => do
    let (isNegative, cs) := sign cs
    let (ds, cs) ← digits Char.isDigit cs
    let n := natOf 10 ds
    pure (if isNegative then -(n : Int) else n, cs)
  | _ => none

/-- Takes a number with a fraction or an exponent. One above all numbers is refused. -/
def float : Reader Decimal.Binary64 := fun cs => do
  let (isNegative, cs) := sign cs
  match cs with
  | 'i' :: 'n' :: 'f' :: cs => pure (.infinite isNegative, cs)
  | 'n' :: 'a' :: 'n' :: cs => pure (.nan, cs)
  | cs =>
    let (whole, cs) ← decimal cs
    let (fraction, exp, cs) ← match cs with
      | '.' :: cs => do
        let (fraction, cs) ← digits Char.isDigit cs
        match exponent cs with
        | some (e, cs) => pure (fraction, e, cs)
        | none => match cs with
          | 'e' :: _ | 'E' :: _ => none
          | _ => pure (fraction, 0, cs)
      | cs => do
        let (e, cs) ← exponent cs
        pure ([], e, cs)
    let x := Decimal.Binary64.ofDecimal isNegative (natOf 10 (whole ++ fraction))
      (exp - fraction.length)
    match x with
    | .infinite false => none
    | x => pure (x, cs)

/-- Takes a number of exactly so many digits, within bounds. -/
def field (count low high : Nat) : Reader Nat := fun cs =>
  let ds := cs.take count
  let n := natOf 10 ds
  if ds.length = count ∧ ds.all Char.isDigit ∧ low ≤ n ∧ n ≤ high then some (n, cs.drop count)
  else none

/-- Takes one character. -/
def mark (c : Char) : Reader Unit
  | d :: cs => if d = c then some ((), cs) else none
  | [] => none

/-- Takes the day of a date. -/
def date : Reader Unit := fun cs => do
  let (_, cs) ← field 4 0 9999 cs
  let (_, cs) ← mark '-' cs
  let (_, cs) ← field 2 1 12 cs
  let (_, cs) ← mark '-' cs
  let (_, cs) ← field 2 1 31 cs
  pure ((), cs)

/-- Takes the time of a day. -/
def time : Reader Unit := fun cs => do
  let (_, cs) ← field 2 0 23 cs
  let (_, cs) ← mark ':' cs
  let (_, cs) ← field 2 0 59 cs
  let (_, cs) ← mark ':' cs
  let (_, cs) ← field 2 0 60 cs
  match cs with
  | '.' :: cs =>
    match cs.takeWhile Char.isDigit with
    | [] => none
    | _ => pure ((), cs.dropWhile Char.isDigit)
  | cs => pure ((), cs)

/-- Takes the distance of a local time from the common one, if one stands here. -/
def offset (cs : List Char) : List Char :=
  match cs with
  | 'Z' :: cs | 'z' :: cs => cs
  | c :: rest =>
    if c = '+' ∨ c = '-' then
      ((do
        let (_, rest) ← field 2 0 23 rest
        let (_, rest) ← mark ':' rest
        let (_, rest) ← field 2 0 59 rest
        pure rest) : Option (List Char)).getD cs
    else cs
  | [] => []

/-- Takes a date, a time, or both. -/
def datetime : Reader String := fun cs => do
  let rest ← match date cs with
    | some (_, rest) =>
      match rest with
      | 'T' :: more | 't' :: more | ' ' :: more =>
        match time more with
        | some (_, more) => some (offset more)
        | none => some rest
      | rest => some rest
    | none => (time cs).map Prod.snd
  pure (String.ofList (cs.take (cs.length - rest.length)), rest)

/-! ### Values -/

/-- Takes a number, a date or a time. -/
def number (cs : List Char) : Option (Value × List Char) :=
  ((datetime cs).map fun (t, cs) => (.datetime t, cs)) <|>
  ((float cs).map fun (x, cs) => (.float x, cs)) <|>
  ((integer cs).map fun (n, cs) => (.integer n, cs))

/-- Takes the rest of an array, in which each value is taken by `value`. Every step uses up a
character. -/
def items (value : Reader Value) : Nat → Reader (List Value)
  | 0, _ => none
  | n + 1, cs =>
    match skipSpace (cs.length + 1) cs with
    | ']' :: cs => some ([], cs)
    | cs => do
      let (v, cs) ← value cs
      match skipSpace (cs.length + 1) cs with
      | ',' :: cs =>
        let (vs, cs) ← items value n cs
        pure (v :: vs, cs)
      | ']' :: cs => pure ([v], cs)
      | _ => none

/-- Takes the rest of an inline table behind its first bracket or a comma. Every step uses up a
character. -/
def pairs (value : Reader Value) : Nat → Reader (List (List String × Value))
  | 0, _ => none
  | n + 1, cs => do
    let (path, cs) ← key cs
    let (_, cs) ← mark '=' cs
    let (v, cs) ← value (skipBlanks cs)
    match skipBlanks cs with
    | ',' :: cs =>
      let (ps, cs) ← pairs value n cs
      pure ((path, v) :: ps, cs)
    | '\x7d' :: cs => pure ([(path, v)], cs)
    | _ => none

/-- Puts a value at the end of a path of keys into an inline table. Tables that are missing on the way are
made, and one that is there is gone through, however it came about; nothing is said twice. -/
def insertAt (v : Value) : List String → List (String × Value) → Option (List (String × Value))
  | [], _ => none
  | [key], es => if (es.lookup key).isSome then none else some (es ++ [(key, v)])
  | key :: keys, es =>
    match es.lookup key with
    | none => do pure (es ++ [(key, .table (← insertAt v keys []))])
    | some (.table sub) => do
      let sub ← insertAt v keys sub
      pure (es.map fun e => if e.1 = key then (key, .table sub) else e)
    | some _ => none

/-- Takes a value in which others are nested to no more than a given depth. -/
def value : Nat → Reader Value
  | depth, cs =>
    match cs with
    | [] => none
    | c :: rest =>
      if c = '"' ∨ c = '\'' then (string cs).map fun (s, cs) => (.string s, cs)
      else if c = '[' then
        match depth with
        | 0 => none
        | d + 1 => (items (value d) (rest.length + 1) rest).map fun (vs, cs) => (.array vs, cs)
      else if c = '\x7b' then
        match depth with
        | 0 => none
        | d + 1 =>
          match skipBlanks rest with
          | '\x7d' :: cs => some (.table [], cs)
          | _ => do
            let (ps, cs) ← pairs (value d) (rest.length + 1) rest
            pure (.table (← ps.foldlM (fun es p => insertAt p.2 p.1 es) []), cs)
      else if c = 't' then
        match cs with
        | 't' :: 'r' :: 'u' :: 'e' :: cs => some (.boolean true, cs)
        | _ => none
      else if c = 'f' then
        match cs with
        | 'f' :: 'a' :: 'l' :: 's' :: 'e' :: cs => some (.boolean false, cs)
        | _ => none
      else if c.isDigit ∨ c = '+' ∨ c = '-' ∨ c = 'i' ∨ c = 'n' then number cs
      else none

/-! ### Statements -/

/-- Takes the header of a table, on a line of its own. -/
def header : Reader (Bool × List String × List Char)
  | '[' :: '[' :: cs => do
    let (path, cs) ← key cs
    match cs with
    | ']' :: ']' :: cs => pure ((true, path, cs), ← restOfLine? cs)
    | _ => none
  | '[' :: cs => do
    let (path, cs) ← key cs
    match cs with
    | ']' :: cs => pure ((false, path, cs), ← restOfLine? cs)
    | _ => none
  | _ => none

/-- Takes a key and its value, on a line of their own; the text at the value and behind it is given
too. -/
def entry : Reader (List String × Value × List Char × List Char) := fun cs => do
  let (path, cs) ← key cs
  let (_, cs) ← mark '=' cs
  let front := skipBlanks cs
  let (v, behind) ← value maxDepth front
  pure ((path, v, front, behind), ← restOfLine? behind)

/-- Takes all statements; `total` is the length of the whole text. Every step uses up a character. -/
def statements (total : Nat) : Nat → List Char → Option (List Statement)
  | 0, cs => if cs = [] then some [] else none
  | n + 1, cs =>
    match skipBlanks cs with
    | [] => some []
    | c :: rest =>
      if c = '#' ∨ c = '\n' ∨ c = '\r' then do
        statements total n (← restOfLine? (c :: rest))
      else if c = '[' then do
        let ((isElement, path, behind), next) ← header (c :: rest)
        let more ← statements total n next
        pure (.header isElement path ⟨total - (c :: rest).length, total - behind.length⟩ :: more)
      else do
        let ((path, v, front, behind), next) ← entry (c :: rest)
        let more ← statements total n next
        pure (.entry path v ⟨total - front.length, total - behind.length⟩ :: more)

end Reader

/-- The text without the mark that may stand in front of it. -/
def withoutMark : List Char → List Char
  | '\uFEFF' :: cs => cs
  | cs => cs

/-- The statements of a text, if it is a TOML document line by line. -/
def statementsOf (text : String) : Option (List Statement) :=
  let cs := text.toList
  Reader.statements cs.length (cs.length + 1) (withoutMark cs)

end LineShell.Toml
