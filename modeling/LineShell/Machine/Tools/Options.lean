import LineShell.Machine.Tools.Job

/-!
The options of a program: letters behind a dash and words behind two, some of which take a value. Two dashes
alone end them, and a dash alone is an operand. Most programs take options among their operands too. A word
may be cut short as long as it is clear which one is meant.
-/

namespace LineShell.Machine

/-- Whether an option takes a value. -/
inductive OptionValue where
  | none
  | required
  | optional
  deriving DecidableEq, Repr

/-- An option that a program has: its name within the program, its letter, and its word. -/
structure OptionShape where
  key : String
  letter : Option Char := none
  word : Option String := none
  value : OptionValue := .none
  deriving DecidableEq, Repr

/-- The options that were given, in order, with their values, and what is left. -/
structure Options where
  given : List (String × Option Bytes) := []
  operands : List Bytes := []
  deriving DecidableEq, Repr

namespace Options

/-- Why options cannot be read. -/
inductive OptionFault where
  | unknown (letter : Char)
  | unknownWord (word : Bytes)
  | ambiguous (word : Bytes) (possible : List String)
  | missingValue (letter : Char)
  | missingWordValue (word : String)
  | surplusValue (word : String)
  deriving DecidableEq, Repr

/-- The complaint about options. -/
def OptionFault.message : OptionFault → Bytes
  | .unknown letter => Utf8.encode "invalid option -- '" ++ [letter.toNat.toUInt8] ++ Utf8.encode "'"
  | .unknownWord word => Utf8.encode "unrecognized option '--" ++ word ++ Utf8.encode "'"
  | .ambiguous word possible =>
    Utf8.encode "option '--" ++ word ++ Utf8.encode "' is ambiguous; possibilities:" ++
      possible.flatMap fun p => Utf8.encode s!" '--{p}'"
  | .missingValue letter => Utf8.encode s!"option requires an argument -- '{letter}'"
  | .missingWordValue word => Utf8.encode s!"option '--{word}' requires an argument"
  | .surplusValue word => Utf8.encode s!"option '--{word}' doesn't allow an argument"

/-- The option was given. -/
def has (o : Options) (key : String) : Bool := o.given.any (·.1 == key)

/-- The value that was given last for an option. -/
def value? (o : Options) (key : String) : Option Bytes := (o.given.reverse.lookup key).join

/-- All values that were given for an option. -/
def values (o : Options) (key : String) : List Bytes :=
  o.given.filterMap fun g => if g.1 = key then g.2 else none

/-- The one of some options that was given last. -/
def last? (o : Options) (keys : List String) : Option String :=
  (o.given.reverse.find? fun g => keys.contains g.1).map Prod.fst

/-- One option, written as its letter, a bar and its word, either of which may be missing; an equals sign
behind means that it takes a value, with a question mark that it may. -/
def shapeOf (text : String) : OptionShape :=
  let cs := text.toList
  let (value, cs) := match cs.reverse with
    | '?' :: '=' :: rest => (OptionValue.optional, rest.reverse)
    | '=' :: rest => (.required, rest.reverse)
    | _ => (.none, cs)
  match cs with
  | [c] => { key := String.ofList [c], letter := some c, value }
  | c :: '|' :: word =>
    { key := String.ofList word, letter := some c, word := some (String.ofList word), value }
  | word => { key := String.ofList word, word := some (String.ofList word), value }

/-- The options that a line describes, with those that every program has. -/
def shapesOf (line : String) : List OptionShape :=
  ((line.splitOn " ").filter (· ≠ "")).map shapeOf ++ [shapeOf "help", shapeOf "version"]

/-- Reads the letters behind one dash: the options, and the letter that still needs a value. -/
def readLetters (shapes : List OptionShape) :
    Bytes → Except OptionFault (List (String × Option Bytes) × Option (Char × String))
  | [] => .ok ([], none)
  | b :: bs =>
    let letter := Char.ofNat b.toNat
    match shapes.find? (·.letter == some letter) with
    | none => .error (.unknown letter)
    | some shape =>
      match shape.value with
      | .none => do
        let (given, unfinished) ← readLetters shapes bs
        pure ((shape.key, none) :: given, unfinished)
      | .required =>
        if bs = [] then .ok ([], some (letter, shape.key)) else .ok ([(shape.key, some bs)], none)
      | .optional => .ok ([(shape.key, if bs = [] then none else some bs)], none)

/-- The option that a word means. -/
def findWord (shapes : List OptionShape) (word : Bytes) : Except OptionFault OptionShape :=
  match shapes.find? fun s => s.word.map Utf8.encode == some word with
  | some shape => .ok shape
  | none =>
    match shapes.filter fun s => s.word.any fun w => word.isPrefixOf (Utf8.encode w) with
    | [] => .error (.unknownWord word)
    | first :: more =>
      if more.all fun s => s.key == first.key then .ok first
      else .error (.ambiguous word ((first :: more).filterMap OptionShape.word))

/-- Reads the arguments of a program. `mixed` says that options may follow operands. -/
def readAll (shapes : List OptionShape) (mixed : Bool) : List Bytes → Except OptionFault Options
  | [] => .ok {}
  | [0x2D, 0x2D] :: rest => .ok ⟨[], rest⟩
  | (0x2D :: 0x2D :: text) :: rest => do
    let word := text.takeWhile (· ≠ 0x3D)
    let value := if word.length < text.length then some (text.drop (word.length + 1)) else none
    match findWord shapes word with
    | .error (.unknownWord _) => throw (.unknownWord text)
    | .error (.ambiguous _ possible) => throw (.ambiguous text possible)
    | .error e => throw e
    | .ok shape =>
      match shape.value, value, rest with
      | .none, some _, _ => throw (.surplusValue (shape.word.getD ""))
      | .required, none, [] => throw (.missingWordValue (shape.word.getD ""))
      | .required, none, value :: rest =>
        let o ← readAll shapes mixed rest
        pure { o with given := (shape.key, some value) :: o.given }
      | _, value, rest =>
        let o ← readAll shapes mixed rest
        pure { o with given := (shape.key, value) :: o.given }
  | (0x2D :: b :: bs) :: rest => do
    let (given, unfinished) ← readLetters shapes (b :: bs)
    match unfinished, rest with
    | none, rest =>
      let o ← readAll shapes mixed rest
      pure { o with given := given ++ o.given }
    | some (letter, _), [] => throw (.missingValue letter)
    | some (_, key), value :: rest =>
      let o ← readAll shapes mixed rest
      pure { o with given := given ++ (key, some value) :: o.given }
  | operand :: rest =>
    if mixed then do
      let o ← readAll shapes mixed rest
      pure { o with operands := operand :: o.operands }
    else .ok ⟨[], operand :: rest⟩

end Options

namespace Job

/-- The options of a program; it ends when they cannot be read. -/
def optionsOf (line : String) (mixed : Bool) (args : List Bytes) : Job Options := do
  match Options.readAll (Options.shapesOf line) mixed args with
  | .ok o => if o.has "help" || o.has "version" then exit 0 else pure o
  | .error e => refuse e.message

/-- The options of a program that takes them among its operands too. -/
def options (line : String) : Job Options := do optionsOf line true (← args)

/-- Does a job whose failures are shown by another code. -/
def withFailureCode (failureCode : Nat) (job : Job Nat) : Job Nat :=
  fun how => (do exit (← job) : Job Nat) { how with failureCode }

/-- Goes on with a line about the usage in front of references to the help. -/
def withUsage {α : Type} (usage : String) (job : Job α) : Job α := fun how => job { how with usage }

end Job
end LineShell.Machine
