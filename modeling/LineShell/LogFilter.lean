import LineShell.Action
import LineShell.Text.Alphanumeric
import LineShell.Text.Space

/-!
Which messages are logged. The environment names directives, with commas between them; each of them names a
level, or a target and its level, or a span with its fields. A directive that cannot be read is told about
and left out. Nothing that is shown depends on the others.
-/

namespace LineShell.LogFilter

/-- The environment variable that holds the directives. -/
def variableName : String := "RUST_LOG"

/-- Why a directive cannot be read. -/
inductive DirectiveFault where
  | malformed
  | level
  deriving DecidableEq, Repr

/-- The text of a fault. -/
def DirectiveFault.message : DirectiveFault → String
  | .malformed => "invalid filter directive"
  | .level => "error parsing level filter: expected one of \"off\", \"error\", \"warn\", \"info\", " ++
      "\"debug\", \"trace\", or a number 0-5"

/-- The names of the levels. -/
def levelNames : List String := ["off", "error", "warn", "info", "debug", "trace"]

/-- The text is a level: a name, in capitals or not, or a number up to five. -/
def isLevel (text : List Char) : Bool :=
  let digits := match text with
    | '+' :: rest => rest
    | rest => rest
  if digits ≠ [] ∧ digits.all Char.isDigit then digits.foldl (fun n c => n * 10 + (c.toNat - 48)) 0 ≤ 5
  else levelNames.any fun name => name.toList == text.map Char.toLower

/-- Where the reading of a directive stands. Of a level it is known how many characters come before it, and
of a field whether anything has been read. -/
inductive Position where
  | start
  | target
  | span
  | field (isEmpty : Bool)
  | fields
  | behindSpan
  | level (start : Nat)
  deriving DecidableEq, Repr

namespace Position

/-- A character that a directive may start with, apart from the bracket of a span. -/
def startsTarget (c : Char) : Bool := c == '-' || c == ':' || c == '_' || Text.isAlphanumeric c

/-- The position behind one character more, which has so many before it. -/
def next (before : Nat) (c : Char) : Position → Option Position
  | .start => if c = '[' then some .span else if startsTarget c then some .target else none
  | .target => some (if c = '=' then .level (before + 1) else if c = '[' then .span else .target)
  | .span => some (if c = ']' then .behindSpan else if c = '\x7b' then .field true else .span)
  | .field isEmpty =>
    if c = '\x7d' then (if isEmpty then none else some .fields) else some (.field false)
  | .fields => if c = ']' then some .behindSpan else none
  | .behindSpan => if c = '=' then some (.level (before + 1)) else none
  | .level n => some (.level n)

end Position

/-- What is wrong with a directive, if anything. White space around it is passed over, but the level is what
the directive as it is given has behind as many characters as come before the level without it. -/
def faultOf? (directive : List Char) : Option DirectiveFault :=
  match (Text.trim directive).zipIdx.foldlM (fun p c => Position.next c.2 c.1 p) Position.start with
  | some .target | some .behindSpan => none
  | some (.level n) =>
    let text := directive.drop n
    if text = [] ∨ isLevel text then none else some .level
  | _ => some .malformed

/-- The complaint about a directive, if there is one. -/
def complaint? (directive : List Char) : Option String :=
  (faultOf? directive).map fun e => s!"ignoring `{String.ofList directive}`: {e.message}\n"

/-- The complaints about the directives in a text. -/
def complaints (text : String) : List String :=
  ((text.toList.splitOn ',').filter (· ≠ [])).filterMap complaint?

/-- Shows complaints, one after the other, until one cannot be shown. -/
def complain : List String → Action (Except Fault Unit)
  | [] => pure (.ok ())
  | complaint :: complaints => do
    match ← Action.request (.write .err (Utf8.encode complaint)) with
    | .error e => pure (.error e)
    | .ok () => complain complaints

/-- Reads the directives of the environment and complains about those that cannot be read. -/
def load : Action (Except Fault Unit) := do
  let value : Option Bytes ← Action.request (.getVariable variableName)
  match value.bind Utf8.decode? with
  | none => pure (.ok ())
  | some text => complain (complaints text)

end LineShell.LogFilter
