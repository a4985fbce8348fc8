import LineShell.Machine.Script.Locating
import LineShell.Machine.Script.Output
import LineShell.Machine.Script.Place
import LineShell.Machine.Script.Reader
import LineShell.Machine.Script.Reading
import LineShell.Machine.Script.Redirecting
import LineShell.Machine.Script.Signals
import LineShell.Machine.Script.Testing

/-!
Running the commands of a script. A command gives a status; one that is the last of its process need not be
run in another one. What is asked for by the end of the shell, and by signals, is done between commands.
-/

namespace LineShell.Machine.Script

namespace Evaluation

/-! ### Texts -/

/-- Reads the commands of the next line. -/
def nextLine (input : Input) : Sh (Input × Option Command) := do
  let s ← get
  let input := { input with
    aliases := s.aliases, documents := s.documents, nextDocument := s.nextDocument }
  let (result, input) ← Sh.lift (Reader.nextLine.run.run input)
  modify fun s => { s with documents := input.documents, nextDocument := input.nextDocument }
  if input.source.isSome ∧ (← Sh.hasOption 'v') then
    let _ ← Sh.writeTo 2 input.seen.reverse
  match result with
  | .ok c => pure (input, c)
  | .error e => do
    modify fun s => { s with line := e.line }
    Sh.fail e.message

/-- The end of the text is known to come next. -/
def isEnding (input : Input) : Bool :=
  match input.pushed with
  | some .ending => true
  | _ => false

/-- Runs what is read, line by line; `isLast` says that the shell ends behind it. -/
def runLines (run : Runner) (m : Manner) : Nat → Input → Nat → Sh Nat
  | 0, _, _ => Sh.forever
  | n + 1, input, status => do
    match ← nextLine input with
    | (_, none) => pure status
    | (input, some c) => do
      let isNothing := match c with
        | .nothing => true
        | _ => false
      let result ← run c { m with isLast := m.isLast && isEnding input }
      let status := if isNothing then status else result
      if (← get).skip ≠ .none then pure status else runLines run m n input status

/-- Runs a text. -/
def runText (run : Runner) (m : Manner) (text : Bytes) : Sh Nat :=
  runLines run m (Nat.pow 2 62) { unread := text } 0

/-- Runs what a stream holds. The rest of it may be left out by its commands. -/
def runStream (run : Runner) (stream : Nat) : Sh Nat := do
  let status ← runLines run {} (Nat.pow 2 62) { unread := [], source := some stream } 0
  modify fun s => if s.skip = .leaveFunction then { s with skip := .none } else s
  pure status

/-! ### Signals -/

/-- Does what is to be done for the signals that have arrived. -/
def runTraps (run : Runner) : Sh Unit := do
  let s ← get
  if s.traps.any fun t => t.1 != 0 && t.2 != [] then
    Sh.noticeSignals
    let s ← get
    if s.arrived ≠ [] ∧ s.skip = .none then
      let status := s.keptStatus.getD s.status
      let kept := s.keptStatus
      modify fun s => { s with keptStatus := some status }
      each status ((List.range (Signal.last + 1)).filter s.arrived.contains)
      modify fun s => { s with keptStatus := kept }
where
  each (status : Nat) : List Nat → Sh Unit
    | [] => pure ()
    | signal :: signals => do
      let s ← get
      if s.skip = .none then
        set { s with arrived := s.arrived.filter (· ≠ signal) }
        match s.traps.lookup signal with
        | some action =>
          let _ ← runText run {} action
          if (← get).skip ≠ .leaveFunction then Sh.setStatus status
        | none => pure ()
        each status signals

/-- Ends a shell: what was asked for its end is done first. -/
def finish (run : Runner) (s : Shell) (result : Except Stop Nat) : Work Nat := do
  let status := match result with
    | .ok code => code
    | .error _ => s.status
  match s.traps.lookup 0 with
  | none | some [] => pure status
  | some action =>
    let s := { s with
      traps := s.traps.filter (·.1 ≠ 0), skip := .none, status, keptStatus := some status, loops := 0
      commandName := none }
    let (result, s) ← (runText run {} action).run.run s
    match result with
    | .ok _ => pure status
    | .error _ => pure s.status

/-- Some signal is waited for, or the end of the shell. -/
def hasTraps : Sh Bool := do pure ((← get).traps.any (·.2 != []))

/-! ### Processes -/

/-- Starts a process that runs a command and ends. -/
def forkFor (run : Runner) (work : Sh Nat) : Sh Nat :=
  Sh.fork (do
    Sh.becomeChild
    work) (finish run)

/-- Makes a process independent of the one that does not wait for it. -/
def detach (isFirst : Bool) : Sh Unit := do
  let _ : Disposition ← Sh.call (.dispose 2 .ignored)
  let _ : Disposition ← Sh.call (.dispose 3 .ignored)
  if isFirst then
    let _ ← Sh.call (.close 0)
    match ← Sh.call (.openFile (.ofString "/dev/null") { reads := true }) with
    | .ok 0 => pure ()
    | _ => Sh.failText "Can't open /dev/null"

/-- Remembers processes that are not waited for. -/
def remember (children : List Nat) : Sh Unit := do
  match children.getLast? with
  | none => pure ()
  | some last => modify fun s => { s with lastBackground := some last, jobs := s.jobs ++ [(last, children)] }

/-- Waits for processes; the status is that of the last one. -/
def awaitChildren : List Nat → Nat → Sh Nat
  | [], status => pure status
  | child :: children, _ => do
    let status ← Sh.awaitChild child
    awaitChildren children status

/-- Runs commands with a pipe between each two of them; `previous` is where the last one's output can be
read. -/
def startPipe (run : Runner) (isBackground : Bool) :
    List Command → Option Nat → List Nat → Sh (List Nat)
  | [], _, children => pure children.reverse
  | c :: cs, previous, children => do
    let between ← if cs.isEmpty then pure none
      else do
        let ends : Nat × Nat ← Sh.call .makePipe
        pure (some ends)
    let child ← forkFor run (do
      if isBackground then detach children.isEmpty
      match between with
      | some (reader, _) => do
        let _ ← Sh.call (.close reader)
      | none => pure ()
      match previous with
      | some stream =>
        if stream ≠ 0 then
          let _ ← Sh.call (.duplicate stream 0)
          let _ ← Sh.call (.close stream)
      | none => pure ()
      match between with
      | some (_, writer) =>
        if 1 < writer then
          let _ ← Sh.call (.duplicate writer 1)
          let _ ← Sh.call (.close writer)
      | none => pure ()
      run c { isLast := true })
    match previous with
    | some stream => do
      let _ ← Sh.call (.close stream)
    | none => pure ()
    match between with
    | some (_, writer) => do
      let _ ← Sh.call (.close writer)
    | none => pure ()
    startPipe run isBackground cs (between.map Prod.fst) (child :: children)

/-- Runs commands with pipes between them. -/
def pipe (run : Runner) (cs : List Command) (isBackground : Bool) : Sh Nat := do
  let children ← startPipe run isBackground cs none []
  if isBackground then
    remember children
    pure 0
  else awaitChildren children 0

/-- Redirects streams for good. -/
def redirectForGood (run : Runner) (targets : List Target) : Sh Unit := do
  let (_, result) ← Redirecting.redirect run (finish run) false targets []
  Sh.resume result

/-- Runs a command in a process of its own. -/
def subshell (run : Runner) (line : Nat) (body : Command) (rs : List Redirection) (isBackground : Bool)
    (m : Manner) : Sh Nat := do
  modify fun s => { s with line }
  let targets ← rs.mapM (Redirecting.expand run (finish run))
  let inside (m : Manner) : Sh Nat := do
    redirectForGood run targets
    run body m
  if !isBackground ∧ m.isLast ∧ !(← hasTraps) then inside m
  else
    let child ← forkFor run (do
      if isBackground then detach true
      inside { isLast := true, isTested := m.isTested && !isBackground })
    if isBackground then
      remember [child]
      pure 0
    else Sh.awaitChild child

/-! ### Commands made of others -/

/-- What is to be left out behind the turn of a loop: nothing, the rest of the loop, or more than that. -/
def skipLoop : Sh Skip := do
  let s ← get
  match s.skip with
  | .leaveLoops count =>
    if count ≤ 1 then
      set { s with skip := .none }
      pure (.leaveLoops 0)
    else
      set { s with skip := .leaveLoops (count - 1) }
      pure (.leaveLoops 0)
  | .nextTurn count =>
    if count ≤ 1 then
      set { s with skip := .none }
      pure (.nextTurn 0)
    else
      set { s with skip := .nextTurn (count - 1) }
      pure (.leaveLoops 0)
  | skip => pure skip

/-- The loop goes on. -/
def goesOn : Skip → Bool
  | .none | .nextTurn _ => true
  | _ => false

/-- Does something inside of one more loop. -/
def inLoop {α : Type} (work : Sh α) : Sh α := do
  modify fun s => { s with loops := s.loops + 1 }
  let a ← work
  modify fun s => { s with loops := s.loops - 1 }
  pure a

/-- Repeats a command as long as a condition holds, or until it does. -/
def loopWhile (run : Runner) (isUntil : Bool) (condition body : Command) (m : Manner) : Nat → Nat → Sh Nat
  | 0, _ => Sh.forever
  | n + 1, status => do
    let result ← run condition { isTested := true }
    match ← skipLoop with
    | .leaveFunction => pure result
    | .leaveLoops _ => pure status
    | .nextTurn _ => loopWhile run isUntil condition body m n status
    | .none =>
      if (result == 0) == isUntil then pure status
      else
        let status ← run body m
        if goesOn (← skipLoop) then loopWhile run isUntil condition body m n status else pure status

/-- Repeats a command for each of some values of a variable. -/
def loopOver (run : Runner) (name : Bytes) (body : Command) (m : Manner) : List Bytes → Nat → Sh Nat
  | [], status => pure status
  | value :: values, _ => do
    Sh.assign name value false
    let status ← run body m
    if goesOn (← skipLoop) then loopOver run name body m values status else pure status

/-- One of the patterns stands for the value. -/
def matchesAny (run : Runner) (value : Bytes) : List Word → Sh Bool
  | [] => pure false
  | w :: ws => do
    let field ← Expansion.single run (finish run) false w
    if Pattern.accepts (Pattern.ofField field) value then pure true else matchesAny run value ws

/-- Runs the first case whose pattern stands for the value. -/
def selectCase (run : Runner) (value : Bytes) (m : Manner) : List (List Word × Command) → Sh Nat
  | [] => pure 0
  | (patterns, body) :: more => do
    if ← matchesAny run value patterns then
      match body with
      | .nothing => pure 0
      | body => run body m
    else selectCase run value m more

/-- Redirects streams around a piece of work. -/
def withRedirections (run : Runner) (targets : List Target) (keepsThem : Bool)
    (refused : Sh Nat) (work : Sh Nat) : Sh Nat := do
  let (frame, result) ← Redirecting.redirect run (finish run) true targets []
  let outcome ← match result with
    | .ok () => Sh.attempt do
      modify fun s => { s with traceStream := Redirecting.traceStream frame }
      work
    | .error .failed => Sh.attempt refused
    | .error .leaves => pure (.error .leaves)
  if keepsThem ∧ outcome.isOk then Redirecting.drop frame else Redirecting.restore frame
  modify fun s => { s with traceStream := 2 }
  Sh.resume outcome

/-! ### Simple commands -/

/-- Expands words until there is a field. -/
def firstFields (run : Runner) : List Word → Sh (List Bytes × List Word)
  | [] => pure ([], [])
  | w :: ws => do
    match ← Expansion.fields run (finish run) w with
    | [] => firstFields run ws
    | fields => pure (fields, ws)

/-- What is known of a simple command before it is run. -/
structure Called where
  fields : List Bytes
  words : List Word
  before : List Bytes := []
  isSpecial : Option Bool := none
  assigns : Bool := false
  isLocal : Bool := false
  isExec : Bool := false
  withFunctions : Bool := true
  searchPath : Option Bytes := none
  isBuiltin : Bool := false

/-- What stands behind a command that runs another one: what was taken off, and the other command. -/
structure Inner where
  taken : List Bytes
  fields : List Bytes
  words : List Word
  searchPath : Option Bytes

/-- Takes the options off that stand between a command and another one that it runs; there is no other one if
they ask for something else. -/
def inner? (run : Runner) : Nat → Inner → Sh (Option Inner)
  | 0, _ => pure none
  | n + 1, i => do
    let (fields, words) ← if i.fields = [] then firstFields run i.words else pure (i.fields, i.words)
    match fields with
    | [] => pure none
    | [0x2D, 0x2D] :: rest =>
      let (rest, words) ← if rest = [] then firstFields run words else pure (rest, words)
      pure (if rest = [] then none
        else some { i with taken := i.taken ++ [[0x2D, 0x2D]], fields := rest, words })
    | (0x2D :: b :: bs) :: rest =>
      if (b :: bs).all (· == 0x70) then
        inner? run n {
          taken := i.taken ++ [0x2D :: b :: bs], fields := rest, words
          searchPath := some Locating.standardPath }
      else pure none
    | fields => pure (some { i with fields, words })

/-- Finds out what the first word of a command means, through commands that run others. -/
def resolve (run : Runner) : Nat → Called → Sh Called
  | 0, c => pure c
  | n + 1, c => do
    let name := c.fields.headD []
    match ← Locating.find name none c.withFunctions true with
    | .builtin isSpecial =>
      let text := (Locating.builtin? name).map Prod.fst
      let c := { c with
        assigns := text.any Locating.assigners.contains
        isSpecial := some (c.isSpecial.getD isSpecial)
        isLocal := if c.isSpecial.isNone then !isSpecial else true
        isExec := text == some "exec"
        isBuiltin := true }
      if text = some "command" then
        match ← inner? run (Nat.pow 2 62) ⟨[name], c.fields.drop 1, c.words, c.searchPath⟩ with
        | none => pure c
        | some i =>
          resolve run n { c with
            before := c.before ++ i.taken, fields := i.fields, words := i.words
            searchPath := i.searchPath, withFunctions := false, isBuiltin := false }
      else pure c
    | _ => pure { c with isLocal := true, isBuiltin := false, isExec := false, assigns := false }

/-- Expands the words behind the first one. -/
def restFields (run : Runner) (assigns : Bool) : List Word → Sh (List Bytes)
  | [] => pure []
  | w :: ws => do
    let fields ← match (if assigns then w.assignment? else none) with
      | some (name, value) => do
        pure [name ++ 0x3D :: (← Expansion.single run (finish run) true value).bytes]
      | none => Expansion.fields run (finish run) w
    pure (fields ++ (← restFields run assigns ws))

/-- Carries the assignments before a command out; each is given back as it is traced. -/
def assignAll (run : Runner) (isLocal exports : Bool) : List Word → Sh (List Bytes)
  | [] => pure []
  | w :: ws => do
    match w.assignment? with
    | none => assignAll run isLocal exports ws
    | some (name, value) => do
      let bytes := (← Expansion.single run (finish run) true value).bytes
      if isLocal then Settings.makeLocal name (some bytes) true else Sh.assign name bytes exports
      pure ((name ++ 0x3D :: bytes) :: (← assignAll run isLocal exports ws))

/-- Shows a command before it is run. -/
def trace (words : List Bytes) : Sh Unit := do
  if ← Sh.hasOption 'x' then
    let front := (← Sh.valueOf? "PS4").getD []
    let _ ← Sh.writeTo (← get).traceStream (front ++ ([0x20] : Bytes).intercalate words ++ [Lines.newline])

/-- Leaves loops, or the rest of a turn. -/
def leaveLoops (isTurn : Bool) (args : List Bytes) : Sh Nat := do
  let count ← match args with
    | [] => pure 1
    | a :: _ => do
      let n ← Sh.numberOf a
      if n = 0 then Sh.badNumber a else pure n
  let count := min count (← get).loops
  if 0 < count then
    modify fun s => { s with skip := if isTurn then .nextTurn count else .leaveLoops count }
  pure 0

/-- Leaves a function, or a text that is run. -/
def leaveFunction (args : List Bytes) : Sh Nat := do
  let status ← match args with
    | [] => do pure (← get).status
    | a :: _ => Sh.numberOf a
  modify fun s => { s with skip := .leaveFunction }
  pure status

/-- Ends the shell. -/
def leaveShell (args : List Bytes) : Sh Nat := do
  let s ← get
  let status ← match args with
    | [] => pure (s.keptStatus.getD s.status)
    | a :: _ => Sh.numberOf a
  Sh.leave status

/-- Runs what a file holds in this shell. A name without a slash is looked for along the search path. -/
def runFile (run : Runner) (args : List Bytes) : Sh Nat := do
  let (_, operands) ← Sh.options "" args
  match operands with
  | [] => pure 0
  | name :: _ => do
    let path ← if name.contains Path.slash then pure name
      else do
        match ← firstFile (Locating.candidates (← Sh.searchPath) name) with
        | some path => pure path
        | none => Sh.fail (name ++ Utf8.encode ": not found")
    let stream ← Redirecting.openPath path { reads := true }
    let kept ← match ← Sh.call (.duplicateAbove stream Redirecting.leastKept) with
      | .ok kept => do
        let _ ← Sh.call (.close stream)
        pure kept
      | .error _ => pure stream
    modify fun s => { s with commandName := some path }
    let outcome ← Sh.attempt (runStream run kept)
    let _ ← Sh.call (.close kept)
    Sh.resume outcome
where
  firstFile : List Bytes → Sh (Option Bytes)
    | [] => pure none
    | path :: paths => do
      match ← Sh.call (.examine ⟨path⟩ true) with
      | .ok status => if status.kind = .file then pure (some path) else firstFile paths
      | .error _ => firstFile paths

/-- Runs a command of the shell. -/
def builtin (run : Runner) (m : Manner) (name : Bytes) (args : List Bytes) : Sh Nat :=
  match (Locating.builtin? name).map Prod.fst with
  | some "." => runFile run args
  | some ":" | some "true" => pure 0
  | some "false" => pure 1
  | some "[" | some "test" => Testing.run name args
  | some "alias" => Settings.setAliases args
  | some "unalias" => Settings.removeAliases args
  | some "break" => leaveLoops false args
  | some "continue" => leaveLoops true args
  | some "cd" | some "chdir" => Place.change args
  | some "pwd" => Place.show_ args
  | some "command" => Locating.describeBy args
  | some "type" => Locating.describeAll args
  | some "hash" => Locating.hash args
  | some "echo" => Output.echo args
  | some "printf" => do
    let (_, operands) ← Sh.options "" args
    Output.printf operands
  | some "eval" => if args = [] then pure 0 else runText run { isTested := m.isTested } (([0x20] : Bytes).intercalate args)
  | some "exec" => do
    let (_, operands) ← Sh.options "" args
    if operands = [] then pure 0 else Locating.become (← Sh.searchPath) 0 operands
  | some "exit" => leaveShell args
  | some "return" => leaveFunction args
  | some "export" => Settings.exportVariables args
  | some "readonly" => Settings.fixVariables args
  | some "local" => Settings.localVariables args
  | some "unset" => Settings.unset args
  | some "set" => Settings.set args
  | some "shift" => Settings.shift args
  | some "getopts" => Settings.getOption args
  | some "read" => Reading.run args
  | some "trap" => Signals.trap args
  | some "kill" => Signals.kill args
  | some "wait" => Signals.wait args
  | some "jobs" => Signals.showJobs args
  | some "fg" | some "bg" => Signals.resumeJob args
  | some "times" => Place.times
  | some "umask" => Place.setMask args
  | some "ulimit" => Place.limit args
  | _ => pure 0

/-- Runs a command of the shell, and writes what it has printed. -/
def runBuiltin (run : Runner) (m : Manner) (isSpecial : Bool) (name : Bytes) (args : List Bytes) :
    Sh Nat := do
  let outer := (← get).commandName
  modify fun s => { s with commandName := some name }
  let result ← Sh.attempt do
    let status ← builtin run m name args
    if ← Sh.flush then pure status
    else
      Sh.complain (name ++ Utf8.encode ": I/O error")
      pure (status ||| 1)
  modify fun s => { s with commandName := outer }
  match result with
  | .ok status => pure status
  | .error .failed => if isSpecial then throw .failed else pure (← get).status
  | .error .leaves => throw .leaves

/-- Runs a function with arguments of its own. -/
def runFunction (run : Runner) (m : Manner) (body : Command) (args : List Bytes) : Sh Nat := do
  let outer ← get
  set { outer with positional := args, optionIndex := 1, optionOffset := none, loops := 0 }
  let result ← Sh.attempt (run body { isTested := m.isTested })
  modify fun s => { s with
    positional := outer.positional, optionIndex := outer.optionIndex, optionOffset := outer.optionOffset
    loops := outer.loops, skip := if s.skip = .leaveFunction then .none else s.skip }
  let _ ← Sh.resume result
  pure (← get).status

/-- Runs a program in a process of its own, or in place of the shell. -/
def runProgram (run : Runner) (m : Manner) (searchPath : Bytes) (index : Option Nat) (args : List Bytes) :
    Sh Nat := do
  if m.isLast ∧ !(← hasTraps) then Locating.become searchPath (index.getD 0) args
  else
    let child ← Sh.fork (Locating.become searchPath (index.getD 0) args) fun s _ => pure s.status
    let _ := run
    Sh.awaitChild child

/-- Runs what a command means. -/
def runCalled (run : Runner) (m : Manner) (c : Called) (args : List Bytes) : Sh Nat := do
  match args with
  | [] => pure (← get).outputStatus
  | name :: rest =>
    let standard ← Sh.searchPath
    let meaning ← Locating.find name c.searchPath c.withFunctions true
    match meaning with
    | .missing e => do
      Sh.complain (name ++ Locating.reason e)
      pure 127
    | .function body => runFunction run m body rest
    | .builtin _ => runBuiltin run m (c.isSpecial = some true) name rest
    | .program index => runProgram run m (c.searchPath.getD standard) index args

/-- Runs a simple command: its words are expanded, its streams redirected, and its variables set. -/
def simple (run : Runner) (line : Nat) (assignments words : List Word) (rs : List Redirection)
    (m : Manner) : Sh Nat := do
  modify fun s => { s with line, outputStatus := 0, traceStream := 2 }
  let (fields, words) ← firstFields run words
  let c ← if fields = [] then pure { fields, words : Called } else resolve run (Nat.pow 2 62) { fields, words }
  let args ← do pure (c.fields ++ (← restFields run c.assigns c.words))
  if c.isLocal then Settings.openFrame
  let targets ← rs.mapM (Redirecting.expand run (finish run))
  let outcome ← Sh.attempt <| withRedirections run targets c.isExec
    (do
      Sh.setStatus 2
      if c.isSpecial = some true then throw .failed else pure 2)
    (do
      let assigned ← assignAll run c.isLocal (c.isExec && 1 < args.length) assignments
      let words := assigned ++ c.before ++ args
      if words ≠ [] then trace words
      runCalled run m c args)
  if c.isLocal then Settings.closeFrame
  Sh.resume outcome

/-! ### All commands -/

/-- Runs a command. -/
def run : Nat → Runner
  | 0, _, _ => Sh.forever
  | n + 1, c, m => do
    let r : Runner := run n
    let done (status : Nat) (isChecked : Bool) : Sh Nat := do
      Sh.setStatus status
      runTraps r
      if isChecked ∧ !m.isTested ∧ status ≠ 0 ∧ (← Sh.hasOption 'e') then throw .leaves
      else if m.isLast then throw .leaves
      else pure (← get).status
    let stay : Sh Nat := do
      runTraps r
      if m.isLast then throw .leaves else pure (← get).status
    let inner : Manner := { isTested := m.isTested }
    if ← Sh.hasOption 'n' then stay
    else
      match c with
      | .nothing => stay
      | c => do
        runTraps r
        match c with
        | .nothing => stay
        | .negation body => do
          let status ← r body { isTested := true }
          done (if status = 0 then 1 else 0) false
        | .redirected line body rs => do
          modify fun s => { s with line }
          let targets ← rs.mapM (Redirecting.expand r (finish r))
          let status ← withRedirections r targets false
            (do
              Sh.setStatus 2
              pure 2)
            (r body inner)
          done status false
        | .simple line assignments words rs => do
          done (← simple r line assignments words rs m) true
        | .each line name words body => do
          modify fun s => { s with line }
          let values ← restFields r false words
          let status ← inLoop (loopOver r name body inner values 0)
          done status false
        | .loop isUntil condition body => do
          let status ← inLoop (loopWhile r isUntil condition body inner (Nat.pow 2 62) 0)
          done status false
        | .subshell line body rs => do done (← subshell r line body rs false m) true
        | .background line body rs => do done (← subshell r line body rs true m) true
        | .pipe cs isBackground => do done (← pipe r cs isBackground) true
        | .select line word cases => do
          modify fun s => { s with line }
          let value := (← Expansion.single r (finish r) false word).bytes
          done (← selectCase r value m cases) false
        | .both left right => do
          let status ← r left { isTested := true }
          if status ≠ 0 ∨ (← get).skip ≠ .none then stay else done (← r right m) false
        | .either left right => do
          let status ← r left { isTested := true }
          if status = 0 ∨ (← get).skip ≠ .none then stay else done (← r right m) false
        | .sequence left right => do
          let _ ← r left inner
          if (← get).skip ≠ .none then stay else done (← r right m) false
        | .branch condition yes no => do
          let status ← r condition { isTested := true }
          if (← get).skip ≠ .none then stay
          else if status = 0 then done (← r yes m) false
          else
            match no with
            | .nothing => done 0 false
            | no => done (← r no m) false
        | .define _ name body => do
          modify fun s => { s with functions := (name, body) :: s.functions.filter (·.1 ≠ name) }
          done 0 false

/-- More commands inside of each other than there ever are. -/
def manyCommands : Nat := Nat.pow 2 62

/-- Runs a command. -/
def runner : Runner := run manyCommands

end Evaluation
end LineShell.Machine.Script
