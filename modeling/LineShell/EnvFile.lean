import LineShell.Action
import LineShell.Text.Alphanumeric
import LineShell.Text.Lines
import LineShell.Text.Space

/-!
The file `.env`, which gives variables to the environment at the start. It is looked for in the working
directory and in those above it. Each entry is a name and a value on one line, unless quotes go on over
its end; values may refer to variables. A variable that the environment has already keeps its value. The
first entry that is malformed ends the reading; what stood before it holds. A value that no variable can
have is more than the program can stand.
-/

namespace LineShell.EnvFile

open Text (isSpace trimStart trimEnd)

/-- The name of the file. -/
def name : String := ".env"

/-! ### Lines -/

/-- Where the reading of a line stands: between words, after white space, or inside quotes, and whether
the next character is taken as it is. -/
inductive LineState where
  | plain
  | space
  | escaped
  | weak
  | weakEscaped
  | strong
  | strongEscaped
  deriving DecidableEq, Repr

namespace LineState

/-- The state after one character more. -/
def next (c : Char) : LineState → LineState
  | .plain =>
    if isSpace c && c != '\n' && c != '\r' then .space
    else if c = '\\' then .escaped
    else if c = '"' then .weak
    else if c = '\'' then .strong
    else .plain
  | .space =>
    if c = '\\' then .escaped
    else if c = '"' then .weak
    else if c = '\'' then .strong
    else .plain
  | .escaped => .plain
  | .weak => if c = '\\' then .weakEscaped else if c = '"' then .plain else .weak
  | .weakEscaped => .weak
  | .strong => if c = '\\' then .strongEscaped else if c = '\'' then .plain else .strong
  | .strongEscaped => .strong

/-- The state after a line and the line itself; at a comment, which needs white space before it, both
end, and no state is left. -/
def read : LineState → List Char → Option LineState × List Char
  | s, [] => (some s, [])
  | s, c :: cs =>
    if s = .space ∧ c = '#' then (none, [])
    else
      let (t, kept) := read (s.next c) cs
      (t, c :: kept)

end LineState

/-- Joins lines that quotes hold together; `read` has been read of the present one. A line that is no
text, or that the file ends in the middle of, is malformed, and nothing is read behind it. -/
def join (read : List Char) (state : LineState) :
    List (Option (List Char)) → List (Option (List Char))
  | [] => if state = .plain then [] else [none]
  | none :: _ => [none]
  | some line :: lines =>
    if (trimStart (read ++ line)).head? = some '#' then some [] :: join [] .plain lines
    else
      match state.read line with
      | (none, kept) => some (read ++ kept) :: join [] .plain lines
      | (some .plain, _) => some (Lines.withoutEnd (read ++ line)) :: join [] .plain lines
      | (some state, _) => join (read ++ line) state lines

/-- The bytes without the mark that may stand in front of a text. -/
def withoutMark : Bytes → Bytes
  | 0xEF :: 0xBB :: 0xBF :: bs => bs
  | bs => bs

/-- The characters of a line, if it is a text. -/
def text? (line : Bytes) : Option (List Char) := (Utf8.decode? line).map String.toList

/-- The lines that have been read of a file, joined where quotes hold them together. Where reading on has failed,
nothing of the line is used that it has failed in, and that line is malformed. -/
def linesOf (reading : Reading) : List (Option (List Char)) :=
  let lines := Lines.split (withoutMark reading.bytes)
  join [] .plain <|
    match reading.failure with
    | none => lines.map text?
    | some _ => (lines.filter Lines.isComplete).map text? ++ [none]

/-! ### Entries -/

/-- A piece of a value: characters, or the value of a variable. -/
inductive ValuePart where
  | char (c : Char)
  | variable (name : String)
  deriving DecidableEq, Repr

/-- Where the reading of a value stands. The name of a variable is read inside double quotes or outside,
in brackets or without. -/
inductive ValueState where
  | plain
  | weak
  | strong
  | escaped (isWeak : Bool)
  | ended
  | variable (isWeak : Bool) (name : List Char)
  | bracketed (isWeak : Bool) (name : List Char)
  deriving DecidableEq, Repr

/-- A character of the name of a variable outside brackets. -/
def isNameChar (c : Char) : Bool := Text.isAlphanumeric c

/-- What a character stands for behind a backslash. -/
def escaped? (c : Char) : Option Char :=
  if c = 'n' then some '\n'
  else if c = '\\' ∨ c = '\'' ∨ c = '"' ∨ c = '$' ∨ c = ' ' then some c
  else none

/-- The state outside names, inside double quotes or not. -/
def ValueState.ofQuote (isWeak : Bool) : ValueState := if isWeak then .weak else .plain

/-- Reads a value. Outside quotes a blank ends it, and only a comment may follow. -/
def readValue : ValueState → List Char → Option (List ValuePart)
  | .plain, [] | .ended, [] | .escaped false, [] => some []
  | .variable false name, [] => some [.variable (String.ofList name)]
  | _, [] => none
  | .ended, c :: cs =>
    if c = ' ' ∨ c = '\t' then readValue .ended cs else if c = '#' then some [] else none
  | .escaped isWeak, c :: cs => do
    let d ← escaped? c
    pure (.char d :: (← readValue (.ofQuote isWeak) cs))
  | .strong, c :: cs =>
    if c = '\'' then readValue .plain cs else (readValue .strong cs).map (.char c :: ·)
  | .variable isWeak name, c :: cs =>
    if isNameChar c then readValue (.variable isWeak (name ++ [c])) cs
    else if c = '\x7b' ∧ name = [] then readValue (.bracketed isWeak []) cs
    else do
      let rest ←
        if c = '$' then readValue (.variable isWeak []) cs
        else (readValue (.ofQuote isWeak) cs).map (.char c :: ·)
      pure (.variable (String.ofList name) :: rest)
  | .bracketed isWeak name, c :: cs =>
    if c = '\x7d' then
      (readValue (.ofQuote isWeak) cs).map (.variable (String.ofList name) :: ·)
    else readValue (.bracketed isWeak (name ++ [c])) cs
  | .weak, c :: cs =>
    if c = '$' then readValue (.variable true []) cs
    else if c = '"' then readValue .plain cs
    else if c = '\\' then readValue (.escaped true) cs
    else (readValue .weak cs).map (.char c :: ·)
  | .plain, c :: cs =>
    if c = '$' then readValue (.variable false []) cs
    else if c = '\'' then readValue .strong cs
    else if c = '"' then readValue .weak cs
    else if c = '\\' then readValue (.escaped false) cs
    else if c = ' ' ∨ c = '\t' then readValue .ended cs
    else (readValue .plain cs).map (.char c :: ·)

/-- A character that a key may start with. -/
def startsKey (c : Char) : Bool := c.isAlpha || c == '_'

/-- A character of a key. -/
def isKeyChar (c : Char) : Bool := c.isAlphanum || c == '_' || c == '.'

/-- Takes a key and the white space behind it. -/
def key? (cs : List Char) : Option (String × List Char) :=
  if cs.head?.any startsKey then
    some (String.ofList (cs.takeWhile isKeyChar), trimStart (cs.dropWhile isKeyChar))
  else none

/-- An entry: a key and the pieces of its value. -/
structure Entry where
  key : String
  value : List ValuePart
  deriving DecidableEq, Repr

/-- Takes the sign between a key and its value. -/
def equals? : List Char → Option (List Char)
  | '=' :: cs => some cs
  | _ => none

/-- Takes a key with the sign behind it; the word `export` may stand in front. -/
def keyAndSign? (cs : List Char) : Option (String × List Char) := do
  let (key, cs) ← key? cs
  match equals? cs with
  | some cs => pure (key, cs)
  | none =>
    if key = "export" then
      let (key, cs) ← key? cs
      pure (key, ← equals? cs)
    else none

/-- Reads a line; an empty one and a comment hold no entry. A malformed line has no reading. -/
def readLine (line : List Char) : Option (Option Entry) :=
  match trimStart (trimEnd line) with
  | [] => some none
  | '#' :: _ => some none
  | cs => do
    let (key, cs) ← keyAndSign? cs
    match trimStart cs with
    | [] => pure (some ⟨key, []⟩)
    | '#' :: _ => pure (some ⟨key, []⟩)
    | cs => pure (some ⟨key, ← readValue .plain cs⟩)

/-! ### Loading -/

/-- The value of a variable, if it has one that is a text. -/
def textOf? (name : String) : Action (Option String) := do
  let value : Option Bytes ← Action.request (.getVariable name)
  pure (value.bind Utf8.decode?)

/-- The value that pieces make in the environment as it is. -/
def valueOf : List ValuePart → Action String
  | [] => pure ""
  | .char c :: parts => do pure (String.singleton c ++ (← valueOf parts))
  | .variable name :: parts => do
    let value ← textOf? name
    pure (value.getD "" ++ (← valueOf parts))

/-- A value that was to be given to a variable, and cannot be given to one: it holds a NUL. -/
structure ValueFault where
  key : String
  deriving DecidableEq, Repr

/-- Gives the variables of lines to the environment, up to the first malformed line. -/
def loadLines : List (Option (List Char)) → Action (Except ValueFault Unit)
  | [] => pure (.ok ())
  | none :: _ => pure (.ok ())
  | some line :: lines => do
    match readLine line with
    | none => pure (.ok ())
    | some none => loadLines lines
    | some (some entry) =>
      let value ← valueOf entry.value
      match ← textOf? entry.key with
      | some _ => loadLines lines
      | none =>
        if value.toList.contains '\x00' then pure (.error ⟨entry.key⟩)
        else
          Action.request (.setVariable entry.key (Utf8.encode value))
          loadLines lines

/-- The path of the file, in a directory or in one above it, at most so many. A place that cannot be
looked at ends the search. -/
def find : Nat → Path → Action (Option Path)
  | 0, _ => pure none
  | n + 1, directory => do
    let path := directory.join (.ofString name)
    match ← Action.request (.examine path) with
    | .ok .file => pure (some path)
    | .error e =>
      if e ≠ .os .enoent then pure none
      else match directory.parent? with
        | none => pure none
        | some above => find n above
    | .ok _ =>
      match directory.parent? with
      | none => pure none
      | some above => find n above

/-- Gives the variables of the file to the environment, if there is one. A file that cannot be read is taken
no notice of, and of one that cannot be read to its end what stands behind the failure. -/
def load : Action (Except ValueFault Unit) := do
  match ← Action.request .currentDirectory with
  | .error _ => pure (.ok ())
  | .ok directory =>
    match ← find (directory.bytes.length + 1) directory with
    | none => pure (.ok ())
    | some path =>
      match ← Action.request (.openInput path) with
      | .error _ => pure (.ok ())
      | .ok d =>
        let reading ← Action.request (.readAll (some d))
        Action.request (.close d)
        loadLines (linesOf reading)

end LineShell.EnvFile
