import LineShell.Machine.Printing.Numeral
import LineShell.Machine.Signal
import LineShell.Machine.State
import LineShell.Machine.Tools.Duration

/-!
Running another program in other surroundings: with other variables, with less right to run, or no longer than
some time.
-/

namespace LineShell.Machine.Running

/-- The directories of a search path. -/
def directories (searchPath : Bytes) : List Bytes :=
  searchPath.foldr (fun b (dirs : List Bytes) =>
    if b = 0x3A then [] :: dirs
    else match dirs with
      | [] => [[b]]
      | d :: ds => (b :: d) :: ds) [[]]

/-- The shell that runs a file which is no program. -/
def shell : Bytes := Utf8.encode "/bin/sh"

/-- Turns into the program at a path; a file that is none is run by the shell. -/
def executeAt (path : Bytes) (args : List Bytes) (environment : Environment) : Job Errno := do
  let e : Errno ← Job.call (.execute ⟨path⟩ args environment)
  if e = .enoexec then Job.call (.execute ⟨shell⟩ (shell :: path :: args.drop 1) environment) else pure e

/-- Tries the directories of a search path. That a file must not be executed is only told if nothing else is
found. -/
def executeAlong (args : List Bytes) (environment : Environment) (failure : Errno) : List Bytes → Job Errno
  | [] => pure failure
  | d :: ds => do
    let path := (⟨d⟩ : Path).join ⟨args.headD []⟩
    match ← executeAt path.bytes args environment with
    | ⟨2⟩ => executeAlong args environment failure ds
    | ⟨20⟩ => executeAlong args environment failure ds
    | ⟨13⟩ => executeAlong args environment .eacces ds
    | e => pure e

/-- Turns into another program, which is looked for along the search path; gives back why that cannot be. -/
def execute (args : List Bytes) (environment : Environment) : Job Errno := do
  let name := args.headD []
  if name = [] then pure .enoent
  else if name.contains Path.slash then executeAt name args environment
  else
    let searchPath := (environment.lookup (Utf8.encode "PATH")).getD (Utf8.encode "/bin:/usr/bin")
    executeAlong args environment .enoent (directories searchPath)

/-- The codes of programs that cannot run another one: before it is tried, if it must not be executed, and if
it is not there. -/
def canceled : Nat := 125
def codeOf (e : Errno) : Nat := if e = .enoent then 127 else 126

/-- Turns into another program, or complains that this cannot be. -/
def executeOr (what : String) (args : List Bytes) (environment : Environment) : Job Nat := do
  let e ← execute args environment
  Job.complainOf (Utf8.encode what ++ Quoting.plain (args.headD [])) e
  pure (codeOf e)

/-! ### Variables -/

/-- A text with an equals sign, in two. -/
def assignment? (text : Bytes) : Option (Bytes × Bytes) :=
  let name := text.takeWhile (· ≠ 0x3D)
  if name.length < text.length then some (name, text.drop (name.length + 1)) else none

/-- Sets a variable in its place, or behind all others. -/
def set (environment : Environment) (name value : Bytes) : Environment :=
  if environment.any (·.1 == name) then environment.map fun v => if v.1 = name then (name, value) else v
  else environment ++ [(name, value)]

/-- Splits a text into words at white space that is not quoted. Every step uses up a byte. -/
def words : Nat → Option Bytes → Bytes → List Bytes
  | 0, word, _ => word.toList
  | _, word, [] => word.toList
  | n + 1, word, b :: bs =>
    let add (c : Bytes) : Option Bytes := some ((word.getD []) ++ c)
    if b = 0x20 ∨ (0x09 ≤ b ∧ b ≤ 0x0D) then word.toList ++ words n none bs
    else if b = 0x27 ∨ b = 0x22 then
      let inside := bs.takeWhile (· ≠ b)
      words n (add inside) (bs.drop (inside.length + 1))
    else if b = 0x5C then
      match bs with
      | c :: rest => words n (add [c]) rest
      | [] => (add [b]).toList
    else if b = 0x23 ∧ word.isNone then []
    else words n (add [b]) bs

/-- Replaces the option that holds a whole command line by its words. -/
def splitOption : List Bytes → List Bytes
  | (0x2D :: 0x53 :: b :: text) :: rest => words (text.length + 1) none (b :: text) ++ rest
  | [0x2D, 0x53] :: text :: rest => words text.length none text ++ rest
  | a :: rest =>
    let front := Utf8.encode "--split-string="
    if front.isPrefixOf a then words a.length none (a.drop front.length) ++ rest
    else a :: rest
  | [] => []

/-- The text that a variable is in an environment. -/
def entry (v : Bytes × Bytes) : Bytes := v.1 ++ 0x3D :: v.2

/-- Runs a program with other variables, or prints the variables. -/
def withVariables : Job Nat := Job.withFailureCode canceled do
  let o ← Job.optionsOf
    "i|ignore-environment 0|null u|unset= C|chdir= S|split-string= v|debug block-signal=? default-signal=? ignore-signal=? list-signal-handling"
    false (splitOption (← Job.args))
  let (isEmpty, operands) := match o.operands with
    | [0x2D] :: rest => (true, rest)
    | operands => (o.has "ignore-environment", operands)
  let isVerbose := o.has "debug"
  let say (text : Bytes) : Job Unit := do
    if isVerbose then Job.writeError (text ++ [Lines.newline])
  match (o.values "unset").find? fun name => name = [] ∨ name.contains 0x3D with
  | some name => Job.failOf (Utf8.encode "cannot unset " ++ Quoting.plain name) .einval
  | none => pure ()
  if isEmpty then say (Utf8.encode "cleaning environ")
  else (o.values "unset").forM fun name => say (Utf8.encode "unset:    " ++ name)
  let known := (← read).environment
  let start := if isEmpty then [] else known.filter fun v => !(o.values "unset").contains v.1
  let assignments := (operands.takeWhile fun a => (assignment? a).isSome).filterMap assignment?
  assignments.forM fun v => say (Utf8.encode "setenv:   " ++ entry v)
  let environment := assignments.foldl (fun e v => set e v.1 v.2) start
  match operands.drop assignments.length with
  | [] =>
    if o.has "chdir" then Job.refuseText "must specify command with --chdir (-C)"
    else
      let ending : Bytes := [if o.has "null" then 0 else Lines.newline]
      Job.print (environment.flatMap fun v => entry v ++ ending)
      pure 0
  | command =>
    if o.has "null" then Job.refuseText "cannot specify --null (-0) with command"
    else
      match o.value? "chdir" with
      | none => pure ()
      | some path =>
        match ← Job.call (.changeDirectory ⟨path⟩) with
        | .ok () => say (Utf8.encode "chdir:    " ++ Quoting.plain path)
        | .error e => Job.failOf (Utf8.encode "cannot change directory to " ++ Quoting.plain path) e
      say (Utf8.encode "executing: " ++ command.headD [])
      (command.zipIdx).forM fun (a, i) => say (Utf8.encode s!"   arg[{i}]= " ++ Quoting.plain a)
      let code ← executeOr "" command environment
      if code = 127 ∧ (command.headD []).any fun b => b == 0x20 || (0x09 ≤ b && b ≤ 0x0D) then
        Job.complainText "use -[v]S to pass options in shebang lines"
      pure code

/-- Prints the values of variables. -/
def printVariables : Job Nat := Job.withFailureCode 2 do
  let o ← Job.optionsOf "0|null" false (← Job.args)
  let ending : Bytes := [if o.has "null" then 0 else Lines.newline]
  let environment := (← read).environment
  if o.operands = [] then
    Job.print (environment.flatMap fun v => entry v ++ ending)
    pure 0
  else
    let found := o.operands.map fun name => if name.contains 0x3D then none else environment.lookup name
    Job.print ((found.filterMap id).flatMap fun value => value ++ ending)
    pure (if found.all Option.isSome then 0 else 1)

/-! ### Rights and time -/

/-- Reads how much less right to run is asked for; what is too large counts as the most there is. -/
def adjustment (text : Bytes) : Job Int := do
  match Numeral.decimal? text with
  | some ⟨isNegative, n, []⟩ => pure (if isNegative then -(min n 39 : Nat) else (min n 39 : Nat))
  | _ => Job.fail (Utf8.encode "invalid adjustment " ++ Quoting.plain text)

/-- Writes options that are numbers as values of another option. -/
def numberOptions : List Bytes → List Bytes
  | [0x2D, 0x6E] :: value :: rest => [0x2D, 0x6E] :: value :: numberOptions rest
  | (0x2D :: s :: bs) :: rest =>
    let digits := if s = 0x2D ∨ s = 0x2B then bs else s :: bs
    if digits.head?.any Numeral.isDigit then [0x2D, 0x6E] :: (s :: bs) :: numberOptions rest
    else (0x2D :: s :: bs) :: rest
  | args => args

/-- Runs a program with less right to run, or prints how much less that is. -/
def nicely : Job Nat := Job.withFailureCode canceled do
  let o ← Job.optionsOf "n|adjustment=" false (numberOptions (← Job.args))
  let wanted ← match o.value? "adjustment" with
    | none => pure 10
    | some text => adjustment text
  match o.operands with
  | [] =>
    if o.has "adjustment" then Job.refuseText "a command must be given with an adjustment"
    else
      Job.printText "0\n"
      pure 0
  | command => do
    if wanted < 0 then Job.complainText "cannot set niceness: Permission denied"
    executeOr "" command (← read).environment

/-- Runs a program that does not notice when its user leaves. -/
def unnoticed : Job Nat := Job.withFailureCode canceled do
  let o ← Job.optionsOf "" false (← Job.args)
  if o.operands = [] then Job.refuseText "missing operand"
  else
    let _ ← Job.call (.dispose 1 .ignored)
    executeOr "failed to run command " o.operands (← read).environment

/-- Starts a process that does a job and ends with its code. -/
def fork (job : Job Nat) : Job Nat := fun how s =>
  Work.fork (job how {} >>= fun r => pure r.1) >>= fun number => pure (number, s)

/-- The streams that a process may have. -/
def streams : List Nat := List.range 10

/-- A process that ends when some time has passed. It holds no streams. -/
def alarm (d : Duration) : Job Nat := do
  streams.forM Job.close
  d.pass
  pure 0

/-- The duration that an argument is. -/
def durationOf (a : Bytes) : Job Duration := do
  match Duration.read? a with
  | some d => pure d
  | none => Job.refuse (Utf8.encode "invalid time interval " ++ Quoting.plain a)

/-- The signal that an argument names. -/
def signalOf (a : Bytes) : Job Nat := do
  let name := if (Utf8.encode "SIG").isPrefixOf a then a.drop 3 else a
  match Signal.ofText? 0 name with
  | some s => pure s
  | none => Job.refuse (Quoting.plain a ++ Utf8.encode ": invalid signal")

/-- The signal that no process can catch. -/
def strongest : Nat := 9

/-- Waits for a process, which gets signals after some times; the ending is given back, and whether the first
of them was needed. -/
def awaitWithin (child : Nat) (say : Nat → Job Unit) :
    List (Duration × Nat) → Bool → Job (Ending × Bool)
  | [], isLate => do
    match ← Job.call (.wait (some child)) with
    | .ok (_, ending) => pure (ending, isLate)
    | .error _ => pure (.exited 0, isLate)
  | (d, signal) :: more, isLate => do
    let clock ← fork (alarm d)
    match ← Job.call (.wait none) with
    | .ok (number, ending) =>
      if number = child then
        let _ ← Job.call (.signal clock strongest)
        pure (ending, isLate)
      else
        say signal
        let _ ← Job.call (.signal child signal)
        let _ ← Job.call (.signal child 18)
        awaitWithin child say more true
    | .error _ => pure (.exited 0, isLate)

/-- Runs a program no longer than some time. -/
def limited : Job Nat := Job.withFailureCode canceled do
  let o ← Job.optionsOf "foreground k|kill-after= preserve-status s|signal= v|verbose" false (← Job.args)
  let killing ← (o.value? "kill-after").mapM durationOf
  let signal ← match o.value? "signal" with
    | none => pure 15
    | some a => signalOf a
  match o.operands with
  | limit :: name :: args => do
    let limit ← durationOf limit
    let environment := (← read).environment
    let child ← fork (executeOr "failed to run command " (name :: args) environment)
    let isOff (d : Duration) : Bool := d == .finite 0
    let stages : List (Duration × Nat) :=
      if isOff limit then []
      else (limit, signal) :: (match killing with
        | some d => if isOff d then [] else [(d, strongest)]
        | none => [])
    let say (signal : Nat) : Job Unit := do
      if o.has "verbose" then
        Job.complain (Utf8.encode s!"sending signal {Signal.name signal} to command " ++ Quoting.plain name)
    let (ending, isLate) ← awaitWithin child say stages false
    match ending with
    | .exited code => pure (if isLate && !o.has "preserve-status" then 124 else code)
    | .signalled s =>
      if isLate && s != strongest && !o.has "preserve-status" then pure 124
      else if isLate && s != strongest then pure (128 + s)
      else
        let me ← Job.call .self
        let _ ← Job.call (.signal me s)
        pure (128 + s)
  | _ => do
    Job.hint
    Job.exit canceled

end LineShell.Machine.Running
