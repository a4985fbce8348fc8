import LineShell.Machine.Printing.Numeral
import LineShell.Machine.Script.Shell

/-!
The commands of a shell that set its variables, its arguments, its options and its aliases, and those that
show them.
-/

namespace LineShell.Machine.Script

namespace Sh

/-- Refuses a text as a number. -/
def badNumber {α : Type} (text : Bytes) : Sh α := fail (Utf8.encode "Illegal number: " ++ text)

/-- The number that an argument is, not below zero. -/
def numberOf (text : Bytes) : Sh Nat :=
  match Numeral.decimal? text with
  | some n =>
    if n.rest.all Numeral.isSpace ∧ 0 ≤ n.value ∧ n.value < Int.pow 2 31 then pure n.size else badNumber text
  | none => badNumber text

/-- Reads the options of a command: letters behind a dash, of which some take a value. The line names the
letters, those that take a value with a colon behind. -/
def options (line : String) (args : List Bytes) : Sh (List (Char × Bytes) × List Bytes) :=
  go args (args.flatten.length + args.length + 1) [] []
where
  go (args : List Bytes) : Nat → Bytes → List (Char × Bytes) → Sh (List (Char × Bytes) × List Bytes)
    | 0, _, given => pure (given.reverse, args)
    | n + 1, [], given =>
      match args with
      | [0x2D, 0x2D] :: rest => pure (given.reverse, rest)
      | (0x2D :: b :: bs) :: rest => go rest n (b :: bs) given
      | args => pure (given.reverse, args)
    | n + 1, b :: bs, given => do
      let letter := Char.ofNat b.toNat
      let known := line.toList
      if b = 0x3A ∨ !known.contains letter then fail (Utf8.encode "Illegal option -" ++ [b])
      else if (known.dropWhile (· ≠ letter)).drop 1 |>.head? |> (· == some ':') then
        match bs, args with
        | [], [] => fail (Utf8.encode "No arg for -" ++ [b] ++ Utf8.encode " option")
        | [], value :: rest => go rest n [] ((letter, value) :: given)
        | bs, args => go args n [] ((letter, bs) :: given)
      else go args n bs ((letter, []) :: given)

end Sh

namespace Settings

/-- A text between single quotes; the single quotes in it stand between double ones. -/
def quoted (bs : Bytes) : Bytes := go (2 * bs.length + 1) bs
where
  go : Nat → Bytes → Bytes
    | 0, _ => []
    | n + 1, bs =>
      let plain := bs.takeWhile (· ≠ 0x27)
      let rest := bs.drop plain.length
      let quotes := rest.takeWhile (· == 0x27)
      let rest := rest.drop quotes.length
      [0x27] ++ plain ++ [0x27] ++
        (if quotes = [] then [] else 0x22 :: quotes ++ 0x22 :: (if rest = [] then [] else go n rest))

/-! ### Variables -/

/-- Refuses a name that no variable can have. -/
def checkName (name : Bytes) : Sh Unit :=
  if isName name then pure () else Sh.fail (name ++ Utf8.encode ": bad variable name")

/-- An argument as a name and a value, if there is one. -/
def split (a : Bytes) : Bytes × Option Bytes :=
  let name := a.takeWhile (· ≠ 0x3D)
  (name, if name.length < a.length then some (a.drop (name.length + 1)) else none)

/-- Shows the variables that are wanted, by their names. -/
def showVariables (front : String) (wanted : Variable → Bool) : Sh Unit := do
  let vs := (← get).store.filter fun v => wanted v.2
  for name in sortBytes (vs.map Prod.fst) do
    let value : Bytes := match (vs.lookup name).bind Variable.value with
      | some value => 0x3D :: quoted value
      | none => []
    Sh.printLine (Utf8.encode front ++ name ++ value)

/-- Marks variables, and sets those that have values. -/
def mark (front : String) (wanted : Variable → Bool) (change : Variable → Variable) (args : List Bytes) :
    Sh Nat := do
  let (given, operands) ← Sh.options "p" args
  if given ≠ [] ∨ operands = [] then showVariables front wanted
  else
    for a in operands do
      match split a with
      | (name, none) =>
        match ← Sh.variableOf? name with
        | some v => Sh.putVariable name (change v)
        | none => do
          checkName name
          Sh.putVariable name (change {})
      | (name, some value) => do
        checkName name
        Sh.assign name value false
        Sh.putVariable name (change ((← Sh.variableOf? name).getD {}))
  pure 0

/-- Marks variables for programs. -/
def exportVariables (args : List Bytes) : Sh Nat :=
  mark "export " Variable.isExported (fun v => { v with isExported := true }) args

/-- Marks variables as fixed. -/
def fixVariables (args : List Bytes) : Sh Nat :=
  mark "readonly " Variable.isFixed (fun v => { v with isFixed := true }) args

/-- Removes a variable. -/
def removeVariable (name : Bytes) : Sh Unit := do
  checkName name
  match ← Sh.variableOf? name with
  | none => pure ()
  | some v =>
    if v.isFixed then Sh.fail (name ++ Utf8.encode ": is read only")
    else modify fun s => { s with store := s.store.filter (·.1 ≠ name) }

/-- Removes variables or functions. -/
def unset (args : List Bytes) : Sh Nat := do
  let (given, operands) ← Sh.options "vf" args
  let isFunction := (given.getLast?.map Prod.fst) == some 'f'
  for name in operands do
    if isFunction then modify fun s => { s with functions := s.functions.filter (·.1 ≠ name) }
    else removeVariable name
  pure 0

/-- The name under which the options of a shell are kept with local variables. -/
def optionsName : Bytes := [0x2D]

/-- Makes a variable local to the running function: what it was comes back afterwards. -/
def makeLocal (name : Bytes) (value : Option Bytes) (exports : Bool) : Sh Unit := do
  let s ← get
  let old : Option Variable :=
    if name = optionsName then some { value := some (Utf8.encode (String.ofList s.options)) }
    else s.store.lookup name
  match value with
  | some value => Sh.assign name value exports
  | none => if old.isNone then Sh.putVariable name {}
  modify fun s =>
    match s.frames with
    | [] => s
    | frame :: frames => { s with frames := ((name, old) :: frame) :: frames }

/-- Makes variables local. -/
def localVariables (args : List Bytes) : Sh Nat := do
  if (← get).frames = [] then Sh.failText "not in a function"
  else
    for a in args do
      let (name, value) := split a
      makeLocal name value false
    pure 0

/-- Starts keeping local variables. -/
def openFrame : Sh Unit := modify fun s => { s with frames := [] :: s.frames }

/-- Puts back what local variables were. -/
def closeFrame : Sh Unit := modify fun s =>
  match s.frames with
  | [] => s
  | frame :: frames =>
    frame.foldl (fun s (name, old) =>
      if name = optionsName then
        { s with options := ((old.bind Variable.value).bind Utf8.decode?).elim s.options String.toList }
      else
        match old with
        | none => { s with store := s.store.filter (·.1 ≠ name) }
        | some v =>
          if (s.store.lookup name).isSome then
            { s with store := s.store.map fun e => if e.1 = name then (name, v) else e }
          else { s with store := s.store ++ [(name, v)] })
      { s with frames }

/-! ### Arguments -/

/-- Sets the arguments of the shell. -/
def setArguments (args : List Bytes) : Sh Unit :=
  modify fun s => { s with positional := args, optionIndex := 1, optionOffset := none }

/-- Takes arguments off the front. -/
def shift (args : List Bytes) : Sh Nat := do
  let count ← match args with
    | [] => pure 1
    | a :: _ => Sh.numberOf a
  let s ← get
  if s.positional.length < count then Sh.failText "can't shift that many"
  else
    setArguments (s.positional.drop count)
    pure 0

/-! ### Options -/

/-- The options by their names, with their letters. -/
def optionNames : List (String × Char) := [
  ("errexit", 'e'), ("noglob", 'f'), ("ignoreeof", 'I'), ("interactive", 'i'), ("monitor", 'm'),
  ("noexec", 'n'), ("stdin", 's'), ("xtrace", 'x'), ("verbose", 'v'), ("vi", 'V'), ("emacs", 'E'),
  ("noclobber", 'C'), ("allexport", 'a'), ("notify", 'b'), ("nounset", 'u'), ("privileged", 'p'),
  ("nolog", 'L'), ("debug", 'D')]

/-- The options that have letters. -/
def letters : List Char := (optionNames.map Prod.snd).filter fun c => c != 'L' && c != 'D'

/-- Turns an option on or off. -/
def setOption (letter : Char) (isOn : Bool) : Sh Unit := modify fun s =>
  let others := s.options.filter (· ≠ letter)
  { s with options := if isOn then letter :: others else others }

/-- Shows all options. -/
def showOptions (isTable : Bool) : Sh Unit := do
  let s ← get
  if isTable then Sh.printLine (Utf8.encode "Current option settings")
  for (name, letter) in optionNames do
    let isOn := s.options.contains letter
    if isTable then
      let blanks := String.ofList (List.replicate (16 - name.length) ' ')
      Sh.printLine (Utf8.encode (name ++ blanks ++ (if isOn then "on" else "off")))
    else Sh.printLine (Utf8.encode ("set " ++ (if isOn then "-o " else "+o ") ++ name))

/-- Turns an option on or off by its name, or shows all options. -/
def setOptionByName (name : Option Bytes) (isOn : Bool) : Sh Unit := do
  match name with
  | none => showOptions isOn
  | some name =>
    match optionNames.find? fun o => Utf8.encode o.1 == name with
    | some (_, letter) => setOption letter isOn
    | none => Sh.fail (Utf8.encode "Illegal option -o " ++ name)

/-- What is left of arguments after their options: whether they were ended by dashes, and whether there is a
letter that asks for a command. -/
structure Rest where
  operands : List Bytes
  endsInDashes : Bool := false
  asksCommand : Bool := false

/-- Turns options on and off as arguments say. `isStart` says that they are those that the shell is started
with. -/
def readOptions (isStart : Bool) : Nat → List Bytes → Bool → Sh Rest
  | 0, args, asks => pure { operands := args, asksCommand := asks }
  | n + 1, args, asks => do
    match args with
    | [0x2D] :: rest => do
      if !isStart then
        setOption 'x' false
        setOption 'v' false
      pure { operands := rest, asksCommand := asks }
    | [0x2D, 0x2D] :: rest => pure { operands := rest, endsInDashes := true, asksCommand := asks }
    | (sign :: bs) :: rest =>
      if sign = 0x2D ∨ sign = 0x2B then do
        let (rest, asks) ← letters (sign = 0x2D) bs rest asks
        readOptions isStart n rest asks
      else pure { operands := args, asksCommand := asks }
    | args => pure { operands := args, asksCommand := asks }
where
  /-- Turns the options of some letters on or off. -/
  letters (isOn : Bool) : Bytes → List Bytes → Bool → Sh (List Bytes × Bool)
    | [], rest, asks => pure (rest, asks)
    | b :: bs, rest, asks => do
      let letter := Char.ofNat b.toNat
      if letter = 'c' ∧ isStart then letters isOn bs rest true
      else if letter = 'l' ∧ isStart then letters isOn bs rest asks
      else if letter = 'o' then do
        setOptionByName rest.head? isOn
        letters isOn bs (rest.drop 1) asks
      else if Settings.letters.contains letter then do
        setOption letter isOn
        letters isOn bs rest asks
      else Sh.fail (Utf8.encode "Illegal option -" ++ [b])

/-- Sets options and arguments, or shows the variables. -/
def set (args : List Bytes) : Sh Nat := do
  if args = [] then showVariables "" fun v => v.value.isSome
  else
    let rest ← readOptions false (args.length + 1) args false
    if rest.operands ≠ [] ∨ rest.endsInDashes then setArguments rest.operands
  pure 0

/-! ### Options of scripts -/

/-- Sets the variables that tell of an option of a script. -/
def tell (goal : Bytes) (letter : UInt8) (index : Nat) (offset : Option Nat) : Sh Unit := do
  Sh.assign (Utf8.encode "OPTIND") (Utf8.encode s!"{index}") false
  checkName goal
  Sh.assign goal [letter] false
  modify fun s => { s with optionIndex := index, optionOffset := offset }

/-- Takes the next option from arguments. -/
def nextOption (shapes goal : Bytes) (args : List Bytes) : Sh Nat := do
  let s ← get
  let index := if args.length + 1 < s.optionIndex then 1 else s.optionIndex
  let offset := if args.length + 1 < s.optionIndex then none else s.optionOffset
  let quiet := shapes.head? = some 0x3A
  let argument := Utf8.encode "OPTARG"
  let current : Bytes := match offset with
    | some o => if 1 < index then (args.getD (index - 2) []).drop o else []
    | none => []
  let word? : Option (Bytes × Nat) :=
    if current ≠ [] then some (current, index)
    else
      match args[index - 1]? with
      | some (0x2D :: b :: bs) => some (b :: bs, index + 1)
      | _ => none
  match word? with
  | none => do
    tell goal 0x3F index none
    pure 1
  | some ([0x2D], index) =>
    if current = [] then do
      tell goal 0x3F index none
      pure 1
    else option quiet argument [0x2D] index
  | some (word, index) => option quiet argument word index
where
  /-- The option at the start of a word. -/
  option (quiet : Bool) (argument word : Bytes) (index : Nat) : Sh Nat := do
    let c := word.headD 0
    let more := word.drop 1
    let inWord (rest : Bytes) : Option Nat :=
      if rest = [] then none else some ((args.getD (index - 2) []).length - rest.length)
    let behind := shapes.dropWhile (· ≠ c)
    if c = 0x3A ∨ behind = [] then
      if quiet then Sh.assign argument [c] false
      else
        let _ ← Sh.writeTo 2 (Utf8.encode "Illegal option -" ++ [c, Lines.newline])
        removeVariable argument
      tell goal 0x3F index (inWord more)
      pure 0
    else if behind[1]? = some 0x3A then
      match more, args[index - 1]? with
      | [], none =>
        if quiet then
          Sh.assign argument [c] false
          tell goal 0x3A index none
        else
          let _ ← Sh.writeTo 2 (Utf8.encode "No arg for -" ++ [c] ++ Utf8.encode " option\n")
          removeVariable argument
          tell goal 0x3F index none
        pure 0
      | [], some value => do
        Sh.assign argument value false
        tell goal c (index + 1) none
        pure 0
      | more, _ => do
        Sh.assign argument more false
        tell goal c index none
        pure 0
    else
      Sh.assign argument [] false
      tell goal c index (inWord more)
      pure 0

/-- Takes the next option of the shell, or of the arguments that are given. -/
def getOption (args : List Bytes) : Sh Nat := do
  match args with
  | shapes :: goal :: [] => nextOption shapes goal (← get).positional
  | shapes :: goal :: args => nextOption shapes goal args
  | _ => Sh.failText "Usage: getopts optstring var [arg...]"

/-! ### Aliases -/

/-- An alias as it is shown. -/
def aliasText (a : Bytes × Bytes) : Bytes := a.1 ++ 0x3D :: quoted a.2

/-- Sets aliases, or shows them. -/
def setAliases (args : List Bytes) : Sh Nat := do
  if args = [] then
    let all := (← get).aliases
    for place in List.range 39 do
      for a in all.filter fun a => Sh.placeOf a.1 == place do
        Sh.printLine (aliasText a)
    pure 0
  else
    let mut code := 0
    for a in args do
      let name := a.take 1 ++ (a.drop 1).takeWhile (· ≠ 0x3D)
      if name.length < a.length then
        let value := a.drop (name.length + 1)
        modify fun s => { s with aliases := s.aliases.filter (·.1 ≠ name) ++ [(name, value)] }
      else
        match (← get).aliases.lookup a with
        | some value => Sh.printLine (aliasText (a, value))
        | none =>
          let _ ← Sh.writeTo 2 (Utf8.encode "alias: " ++ a ++ Utf8.encode " not found\n")
          code := 1
    pure code

/-- Removes aliases. -/
def removeAliases (args : List Bytes) : Sh Nat := do
  let (given, operands) ← Sh.options "a" args
  if given ≠ [] then
    modify fun s => { s with aliases := [] }
    pure 0
  else
    let mut code := 0
    for a in operands do
      if ((← get).aliases.lookup a).isSome then
        modify fun s => { s with aliases := s.aliases.filter (·.1 ≠ a) }
      else
        let _ ← Sh.writeTo 2 (Utf8.encode "unalias: " ++ a ++ Utf8.encode " not found\n")
        code := 1
    pure code

end Settings
end LineShell.Machine.Script
