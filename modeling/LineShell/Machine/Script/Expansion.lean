import LineShell.Machine.Printing.Numeral
import LineShell.Machine.Script.Arithmetic
import LineShell.Machine.Script.Shell

/-!
From words to fields. Parameters, commands and expressions in a word are replaced by what they stand for;
what has come in this way outside of quotes is cut at separators; and fields that are patterns are replaced
by the names that match.
-/

namespace LineShell.Machine.Script

/-- A piece of an expanded word: bytes, of which the loose ones are cut at separators; a mark that there is a
field, even an empty one; or the border between two fields. -/
inductive Fragment where
  | bytes (isQuoted isLoose : Bool) (bytes : Bytes)
  | mark
  | border
  deriving DecidableEq, Repr

/-- A field: its bytes, and which of them were quoted. -/
abbrev Field := List FieldByte

/-- The bytes of a field. -/
def Field.bytes (f : Field) : Bytes := f.map Prod.fst

/-! ### Cutting -/

/-- The fields that are done, from the end, and the one that is open, its bytes from the end. -/
structure Cutting where
  done : List Field := []
  current : Option Field := none

namespace Cutting

/-- Adds a byte to the field that is open. -/
def add (c : Cutting) (b : FieldByte) : Cutting := { c with current := some (b :: c.current.getD []) }

/-- Ends a field, which may be empty. -/
def stop (c : Cutting) : Cutting := { done := (c.current.getD []).reverse :: c.done }

/-- Ends the field that is open, if there is one. -/
def stopIfAny (c : Cutting) : Cutting :=
  match c.current with
  | none => c
  | some _ => c.stop

/-- Cuts loose bytes. Behind a separator that is white, more white ones and one other are left out; behind
another one, white ones are. -/
def cut (separators : Bytes) (c : Cutting) (isBehind isWhite : Bool) : Bytes → Cutting
  | [] => c
  | b :: bs =>
    if separators.contains b then
      let white := Sh.standardSeparators.contains b
      if isBehind then
        if white then cut separators c true isWhite bs
        else if isWhite then cut separators c true false bs
        else cut separators c.stop true false bs
      else if white && c.current.isNone then cut separators c false isWhite bs
      else cut separators c.stop true white bs
    else cut separators (c.add (b, false)) false false bs

/-- Adds a fragment. -/
def addFragment (separators : Bytes) (c : Cutting) : Fragment → Cutting
  | .bytes isQuoted false bs => bs.foldl (fun c b => c.add (b, isQuoted)) c
  | .bytes _ true bs => c.cut separators false false bs
  | .mark => { c with current := some (c.current.getD []) }
  | .border => c.stopIfAny

/-- The fields that fragments make. -/
def fields (separators : Bytes) (fs : List Fragment) : List Field :=
  ((fs.foldl (addFragment separators) {}).stopIfAny).done.reverse

end Cutting

/-- The bytes that fragments make when they are not cut. -/
def Fragment.joined (fs : List Fragment) : Field :=
  fs.flatMap fun
    | .bytes isQuoted _ bs => bs.map fun b => (b, isQuoted)
    | .mark => []
    | .border => [(0x20, false)]

/-- How a word is expanded: whether it makes fields, whether a tilde may stand behind colons, and whether its
own text is loose. -/
structure Expanding where
  makesFields : Bool := true
  assigns : Bool := false
  isInner : Bool := false

namespace Expansion

/-! ### Parameters -/

/-- The number of a parameter that is one of the arguments. -/
def position? (name : Bytes) : Option Nat :=
  if name ≠ [] ∧ name.all isDigit then some (name.foldl (fun v b => v * 10 + (b.toNat - 0x30)) 0) else none

/-- The letters of the options, in the order in which they are shown. -/
def optionLetters : List Char := "pubaCEVvxsnmiIfe".toList

/-- The value of a parameter that is no list; none if it is not set. -/
def valueOf (name : Bytes) : Sh (Option Bytes) := do
  let s ← get
  match position? name with
  | some 0 => pure (some s.title)
  | some n => pure s.positional[n - 1]?
  | none =>
    match name with
    | [0x3F] => pure (some (Utf8.encode s!"{s.status}"))
    | [0x23] => pure (some (Utf8.encode s!"{s.positional.length}"))
    | [0x24] => pure (some (Utf8.encode s!"{s.number}"))
    | [0x21] => pure (s.lastBackground.map fun n => Utf8.encode s!"{n}")
    | [0x2D] =>
      pure (some (Utf8.encode (String.ofList (optionLetters.filter fun c => s.options.contains c))))
    | name => Sh.value? name

/-- The parameter stands for all arguments. -/
def isList (name : Bytes) : Bool := name == [0x40] || name == [0x2A]

/-- All arguments as one value. -/
def joinedArguments : Sh Bytes := do
  let separator : Bytes := match ← Sh.valueOf? "IFS" with
    | none => [0x20]
    | some bs => bs.take 1
  pure (separator.intercalate (← get).positional)

/-- The fragments that a value makes. -/
def ofValue (isQuoted : Bool) (value : Bytes) : List Fragment := [.bytes isQuoted (!isQuoted) value]

/-- The fragments that all arguments make. -/
def ofArguments (isQuoted : Bool) (name : Bytes) (e : Expanding) : Sh (List Fragment) := do
  if e.makesFields ∧ (name = [0x40] ∨ !isQuoted) then
    let fragments := (← get).positional.map fun a =>
      if isQuoted then [Fragment.mark, .bytes true false a] else [.bytes false true a]
    pure ([Fragment.border].intercalate fragments)
  else pure (ofValue isQuoted (← joinedArguments))

/-! ### Words -/

/-- Takes the newlines at the end off. -/
def withoutNewlines (bs : Bytes) : Bytes := (bs.reverse.dropWhile (· == Lines.newline)).reverse

/-- The value of a variable as a number. -/
def numberOf (name : Bytes) : Sh Int := do
  match ← Sh.value? name with
  | none =>
    if ← Sh.hasOption 'u' then Sh.fail (name ++ Utf8.encode ": parameter not set") else pure 0
  | some value =>
    match Numeral.read? value with
    | some n =>
      if n.isTooLarge || !n.rest.all Numeral.isSpace then Sh.fail (Utf8.encode "Illegal number: " ++ value)
      else pure n.value
    | none =>
      if value.all Numeral.isSpace then pure 0 else Sh.fail (Utf8.encode "Illegal number: " ++ value)

/-- The value of an expression. -/
def evaluate (text : Bytes) : Arithmetic.Expression → Sh Int
  | .number value => pure value
  | .variable name => numberOf name
  | .negate e => do pure (Arithmetic.wrap (-(← evaluate text e)))
  | .complement e => do pure (-(← evaluate text e) - 1)
  | .not e => do pure (Arithmetic.truth ((← evaluate text e) == 0))
  | .binary operator left right => do
    let a ← evaluate text left
    let b ← evaluate text right
    applied operator a b
  | .both left right => do
    if (← evaluate text left) = 0 then pure 0 else pure (Arithmetic.truth ((← evaluate text right) != 0))
  | .either left right => do
    if (← evaluate text left) ≠ 0 then pure 1 else pure (Arithmetic.truth ((← evaluate text right) != 0))
  | .choose condition yes no => do
    if (← evaluate text condition) ≠ 0 then evaluate text yes else evaluate text no
  | .assign name operator e => do
    let value ← evaluate text e
    let value ← match operator with
      | none => pure value
      | some operator => applied operator (← numberOf name) value
    Sh.assign name (Utf8.encode s!"{value}") false
    pure value
where
  /-- The result of an operator. -/
  applied (operator : Arithmetic.Operator) (a b : Int) : Sh Int :=
    match operator.apply a b with
    | some value => pure value
    | none => Sh.fail (Utf8.encode "arithmetic expression: division by zero: \"" ++ text ++ [0x22])

/-- The value of the text of an expression. -/
def evaluateText (text : Bytes) : Sh Int :=
  match Arithmetic.read text with
  | .ok e => evaluate text e
  | .error message =>
    Sh.fail (Utf8.encode s!"arithmetic expression: {message}: \"" ++ text ++ [0x22])

/-- The output of a command that runs in a process of its own. -/
def outputOf (run : Runner) (finish : Shell → Except Stop Nat → Work Nat) (body : Command) : Sh Bytes := do
  match body with
  | .nothing => pure []
  | body =>
    let (reader, writer) : Nat × Nat ← Sh.call .makePipe
    let child ← Sh.fork (do
      let _ ← Sh.call (.close reader)
      if writer ≠ 1 then
        let _ ← Sh.call (.duplicate writer 1)
        let _ ← Sh.call (.close writer)
      Sh.becomeChild
      run body { isLast := true }) finish
    let _ ← Sh.call (.close writer)
    let bytes ← readAll reader (Nat.pow 2 62) []
    let _ ← Sh.call (.close reader)
    let status ← Sh.awaitChild child
    modify fun s => { s with status, outputStatus := status }
    pure (withoutNewlines (bytes.filter (· ≠ 0)))
where
  /-- Reads a stream to its end. -/
  readAll (stream : Nat) : Nat → List Bytes → Sh Bytes
    | 0, chunks => pure chunks.reverse.flatten
    | n + 1, chunks => do
      match ← Sh.call (.read stream 4096) with
      | .ok (b :: bs) => readAll stream n ((b :: bs) :: chunks)
      | .error .eintr => readAll stream n chunks
      | _ => pure chunks.reverse.flatten

/-- Replaces a tilde at the start of a text by the directory that it stands for. -/
def tilde (bs : Bytes) : Sh (Bytes × Bytes) := do
  match bs with
  | 0x7E :: rest =>
    let user := rest.takeWhile fun b => b != Path.slash && b != 0x3A
    let home ← if user = [] then Sh.valueOf? "HOME"
      else pure (if user = Utf8.encode "root" then some (Utf8.encode "/root") else none)
    match home with
    | some (b :: bs) => pure (b :: bs, rest.drop user.length)
    | _ => pure ([], 0x7E :: rest)
  | bs => pure ([], bs)

/-- Replaces the tildes in a text that is assigned: at its start and behind colons. -/
def tildes : Nat → Bytes → Sh (List Fragment)
  | 0, bs => pure [.bytes false false bs]
  | n + 1, bs => do
    let (home, rest) ← tilde bs
    let piece := rest.takeWhile (· ≠ 0x3A)
    let front := [Fragment.bytes true false home, .bytes false false piece]
    match rest.drop piece.length with
    | [] => pure front
    | colon :: rest => pure (front ++ .bytes false false [colon] :: (← tildes n rest))

mutual

/-- Expands the pieces of a word. -/
def parts (run : Runner) (finish : Shell → Except Stop Nat → Work Nat) (e : Expanding) (isFirst : Bool) :
    Nat → List WordPart → Sh (List Fragment)
  | 0, _ => Sh.forever
  | _, [] => pure []
  | n + 1, part :: rest => do
    let fragments ← match part with
      | .text true [] => pure [Fragment.mark]
      | .text true bs => pure [.bytes true false bs]
      | .text false bs =>
        if e.assigns then tildes bs.length bs
        else if isFirst then
          let isAlone := rest.isEmpty || bs.contains Path.slash
          let (home, bs) ← if isAlone then tilde bs else pure ([], bs)
          pure [.bytes true false home, .bytes false e.isInner bs]
        else pure [.bytes false e.isInner bs]
      | .number q expression => do
        let text := (Fragment.joined (← parts run finish { makesFields := false } false n expression)).bytes
        let value ← evaluateText text
        pure (ofValue q (Utf8.encode s!"{value}"))
      | .output q body => pure (ofValue q (← outputOf run finish body))
      | .parameter q name use => parameter run finish e n q name use
    pure (fragments ++ (← parts run finish e false n rest))

/-- Expands a parameter. -/
def parameter (run : Runner) (finish : Shell → Except Stop Nat → Work Nat) (e : Expanding) :
    Nat → Bool → Bytes → ParameterUse → Sh (List Fragment)
  | 0, _, _, _ => Sh.forever
  | n + 1, q, name, use => do
    let value ← if isList name then
        (if (← get).positional.isEmpty then pure none else do pure (some (← joinedArguments)))
      else valueOf name
    let whole : Sh (List Fragment) :=
      if isList name then ofArguments q name e else pure (ofValue q (value.getD []))
    let isSet (isNullToo : Bool) : Bool := match value with
      | none => false
      | some bs => !(isNullToo && bs.isEmpty)
    let unset : Sh (List Fragment) := do
      if !isList name ∧ (← Sh.hasOption 'u') then Sh.fail (name ++ Utf8.encode ": parameter not set")
      else whole
    let inner (e : Expanding) (word : Word) : Sh (List Fragment) :=
      parts run finish { e with isInner := !q } true n word
    match use with
    | .value => if value.isSome then whole else unset
    | .malformed => Sh.failText "Bad substitution"
    | .length =>
        if value.isNone then
          let _ ← unset
        pure (ofValue q (Utf8.encode s!"{(value.getD []).length}"))
    | .orElse isNullToo word => if isSet isNullToo then whole else inner e word
    | .andThen isNullToo word => if isSet isNullToo then inner e word else pure []
    | .orAssign isNullToo word =>
      if isSet isNullToo then whole
      else
        let bytes := (Fragment.joined (← inner { e with makesFields := false } word)).bytes
        if isName name then
          Sh.assign name bytes false
          pure (ofValue q bytes)
        else Sh.fail (name ++ Utf8.encode ": bad variable name")
    | .orComplain isNullToo word =>
      if isSet isNullToo then whole
      else
        let message := (Fragment.joined (← inner { e with makesFields := false } word)).bytes
        let message := if word.isEmpty then
            Utf8.encode ("parameter not set" ++ (if isNullToo then " or null" else ""))
          else message
        Sh.fail (name ++ Utf8.encode ": " ++ message)
    | .without isSuffix isLongest pattern =>
      if value.isNone then
        let _ ← unset
      let items := Pattern.ofField (Fragment.joined (← parts run finish { makesFields := false } true n pattern))
      let value := value.getD []
      pure (ofValue q (if isSuffix then Pattern.withoutEnd items isLongest value
        else Pattern.withoutStart items isLongest value))

end

/-! ### Names -/

/-- The first piece of a path that is a pattern, what stands before it, and what stands behind the slash after
it. -/
def firstPattern : Nat → Field → Field → Option (Field × Field × Option Field)
  | 0, _, _ => none
  | n + 1, before, name =>
    let piece := name.takeWhile (·.1 ≠ Path.slash)
    let rest := name.drop piece.length
    if Pattern.isSpecial (Pattern.ofField piece) then
      some (before, piece, if rest = [] then none else some (rest.drop 1))
    else if rest = [] then none
    else firstPattern n (before ++ piece ++ rest.take 1) (rest.drop 1)

/-- The bytes of a path that is no pattern. -/
def unescaped : Field → Bytes
  | [] => []
  | (0x5C, false) :: (b, _) :: rest => b :: unescaped rest
  | (b, _) :: rest => b :: unescaped rest

/-- The names that a pattern stands for, each behind what has been found already. -/
def names : Nat → Bytes → Field → Sh (List Bytes)
  | 0, _, _ => pure []
  | n + 1, found, name => do
    match firstPattern (name.length + 1) [] name with
    | none =>
      if found = [] then pure []
      else
        let path := found ++ unescaped name
        match ← Sh.call (.examine ⟨path⟩ false) with
        | .ok _ => pure [path]
        | .error _ => pure []
    | some (before, piece, rest) =>
      let front := found ++ unescaped before
      match ← Sh.call (.list ⟨if front = [] then [0x2E] else front⟩) with
      | .error _ => pure []
      | .ok entries =>
        let items := Pattern.ofField piece
        let showsDots := piece.head?.any (·.1 == 0x2E) ||
          ((piece.head? == some (0x5C, false)) && (piece[1]?.any (·.1 == 0x2E)))
        let entries := ([0x2E] :: [0x2E, 0x2E] :: entries).filter fun entry =>
          (showsDots || entry.head? != some 0x2E) && Pattern.accepts items entry
        match rest with
        | none => pure (entries.map (front ++ ·))
        | some rest =>
          entries.foldlM (fun all entry => do
            pure (all ++ (← names n (front ++ entry ++ [Path.slash]) rest))) []

/-- What a field stands for: the names that match it, or itself. -/
def matching (f : Field) : Sh (List Bytes) := do
  if ← Sh.hasOption 'f' then pure [f.bytes]
  else if (firstPattern (f.length + 1) [] f).isNone then pure [f.bytes]
  else
    match sortBytes (← names (f.length + 1) [] f) with
    | [] => pure [f.bytes]
    | found => pure found

/-- How deep words may be nested. -/
def manyParts : Nat := Nat.pow 2 62

/-- The fields that a word makes. -/
def fields (run : Runner) (finish : Shell → Except Stop Nat → Work Nat) (w : Word) : Sh (List Bytes) := do
  let fragments ← parts run finish {} true manyParts w
  let separators ← Sh.separators
  let fs := Cutting.fields separators fragments
  fs.foldlM (fun all f => do pure (all ++ (← matching f))) []

/-- The one value that a word makes; its quoted bytes are told apart. -/
def single (run : Runner) (finish : Shell → Except Stop Nat → Work Nat) (assigns : Bool) (w : Word) :
    Sh Field := do
  pure (Fragment.joined (← parts run finish { makesFields := false, assigns } true manyParts w))

end Expansion
end LineShell.Machine.Script
