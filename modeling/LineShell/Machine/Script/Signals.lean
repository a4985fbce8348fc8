import LineShell.Machine.Script.Settings

/-!
The commands of a shell about signals and about the processes that it does not wait for at once.
-/

namespace LineShell.Machine.Script

namespace Signals

/-- A line on the error output, without anything in front. -/
def say (text : Bytes) : Sh Unit := do
  let _ ← Sh.writeTo 2 (text ++ [Lines.newline])

/-- Says what becomes of a signal from now on. One that has been ignored from the start stays so. -/
def setTrap (signal : Nat) (action : Option Bytes) : Sh Unit := do
  let known := (← get).traps.lookup signal
  modify fun s =>
    let others := s.traps.filter (·.1 ≠ signal)
    { s with traps := match action with
        | none => others
        | some a => others ++ [(signal, a)] }
  if signal ≠ 0 then
    let disposition : Disposition := match action with
      | none => .standard
      | some [] => .ignored
      | some _ => .caught
    let old : Disposition ← Sh.call (.dispose signal disposition)
    if known.isNone ∧ old = .ignored then
      let _ : Disposition ← Sh.call (.dispose signal .ignored)

/-- Says what is done when signals arrive, or shows it. -/
def trap (args : List Bytes) : Sh Nat := do
  let (_, operands) ← Sh.options "" args
  let (action, signals) : Option Bytes × List Bytes := match operands with
    | [] => (none, [])
    | [signal] => (none, [signal])
    | action :: signals => (if action = [0x2D] then none else some action, signals)
  if operands = [] then
    let traps := (← get).traps
    for signal in List.range (Signal.last + 1) do
      match traps.lookup signal with
      | some a =>
        Sh.printLine (Utf8.encode "trap -- " ++ Settings.quoted a ++ Utf8.encode (" " ++ Signal.name signal))
      | none => pure ()
    pure 0
  else setAll action signals
where
  setAll (action : Option Bytes) : List Bytes → Sh Nat
    | [] => pure 0
    | name :: names => do
      match Signal.ofText? 0 name with
      | none => do
        say (Utf8.encode "trap: " ++ name ++ Utf8.encode ": bad trap")
        pure 1
      | some signal => do
        setTrap signal action
        setAll action names

/-- How signals are sent. -/
def usage : String :=
  "Usage: kill [-s sigspec | -signum | -sigspec] [pid | job]... or\nkill -l [exitstatus]"

/-- The process that an argument names. -/
def processOf (a : Bytes) : Sh Nat := do
  match a with
  | 0x25 :: rest =>
    let jobs := (← get).jobs
    let job : Option (Nat × List Nat) :=
      if rest = [] ∨ rest = [0x25] ∨ rest = [0x2B] then jobs.getLast?
      else if rest = [0x2D] then jobs.dropLast.getLast?
      else
        match Numeral.decimal? rest with
        | some n => if n.rest = [] ∧ 1 ≤ n.size then jobs[n.size - 1]? else none
        | none => none
    match job with
    | some (last, _) => pure last
    | none => Sh.fail (Utf8.encode "No such job: " ++ a)
  | a => Sh.numberOf a

/-- Sends a signal to processes. -/
def send (signal : Nat) : List Bytes → Nat → Sh Nat
  | [], code => pure code
  | a :: more, code => do
    let target ← processOf a
    match ← Sh.call (.signal target signal) with
    | .ok () => send signal more code
    | .error e => do
      Sh.complain (Utf8.encode (e.text ++ "\n"))
      send signal more 1

/-- Shows the names of signals. -/
def list (args : List Bytes) : Sh Nat := do
  match args with
  | [] => do
    Sh.printLine [0x30]
    for signal in (List.range (Signal.last + 1)).drop 1 do Sh.printLine (Utf8.encode (Signal.name signal))
    pure 0
  | a :: _ => do
    let n ← Sh.numberOf a
    let signal := if 128 < n then n - 128 else n
    if 0 < signal ∧ signal ≤ Signal.last then
      Sh.printLine (Utf8.encode (Signal.name signal))
      pure 0
    else Sh.fail (Utf8.encode "invalid signal number or exit status: " ++ a)

/-- Sends a signal, or shows the names of signals. -/
def kill (args : List Bytes) : Sh Nat := do
  match args with
  | [] => Sh.failText usage
  | (0x2D :: text) :: rest =>
    match Signal.ofText? 1 text with
    | some signal => if rest = [] then Sh.failText usage else send signal rest 0
    | none => do
      let (given, operands) ← Sh.options "ls:" args
      if given.any (·.1 == 'l') then list operands
      else
        let signal ← match given.getLast? with
          | some ('s', text) =>
            match Signal.ofText? 1 text with
            | some signal => pure signal
            | none => Sh.fail (Utf8.encode "invalid signal number or name: " ++ text)
          | _ => pure 15
        if operands = [] then Sh.failText usage else send signal operands 0
  | args => send 15 args 0

/-! ### Processes in the background -/

/-- Waits for processes in turn; the code is that of the last one. A signal ends the wait. -/
def awaitAll (tells : Bool) : List Nat → Nat → Sh (Option Nat)
  | [], code => pure (some code)
  | p :: ps, code => do
    match ← one (Nat.pow 2 62) p with
    | none => pure none
    | some none => awaitAll tells ps code
    | some (some code) => awaitAll tells ps code
where
  one : Nat → Nat → Sh (Option (Option Nat))
    | 0, _ => Sh.forever
    | n + 1, p => do
      match ← Sh.call (.wait (some p)) with
      | .ok (_, ending) => do
        if tells then Sh.tellEnding ending
        pure (some (some ending.code))
      | .error .eintr => do
        Sh.noticeSignals
        let s ← get
        if s.arrived.any fun signal => (s.traps.lookup signal).any (· != []) then pure none else one n p
      | .error _ => pure (some none)

/-- The status after a wait that a signal has ended. -/
def interruptedStatus : Sh Nat := do pure (128 + ((← get).arrived.headD 0))

/-- Waits for the processes of a job, and remembers how it ended. -/
def awaitJob (tells : Bool) (job : Nat × List Nat) : Sh (Option Nat) := do
  match (← get).endedJobs.lookup job.1 with
  | some code => pure (some code)
  | none =>
    match ← awaitAll tells job.2 0 with
    | none => pure none
    | some code => do
      modify fun s => { s with endedJobs := (job.1, code) :: s.endedJobs }
      pure (some code)

/-- Waits for all jobs. -/
def awaitJobs : List (Nat × List Nat) → Sh Nat
  | [] => pure 0
  | job :: jobs => do
    match ← awaitJob false job with
    | none => interruptedStatus
    | some _ => awaitJobs jobs

/-- Waits for the jobs that arguments name. -/
def awaitNamed : List Bytes → Nat → Sh Nat
  | [], code => pure code
  | a :: more, _ => do
    let p ← processOf a
    match (← get).jobs.find? (·.1 == p) with
    | none => awaitNamed more 127
    | some job =>
      match ← awaitJob true job with
      | none => interruptedStatus
      | some code => awaitNamed more code

/-- Waits for jobs. -/
def wait (args : List Bytes) : Sh Nat := do
  let (_, operands) ← Sh.options "" args
  if operands = [] then awaitJobs (← get).jobs else awaitNamed operands 127

/-- Shows the jobs that have not ended. -/
def showJobs (args : List Bytes) : Sh Nat := do
  let (given, _) ← Sh.options "lp" args
  let s ← get
  let running := (s.jobs.zipIdx 1).filter fun j => (s.endedJobs.lookup j.1.1).isNone
  for (job, index) in running do
    if given.any (·.1 == 'p') then Sh.printLine (Utf8.encode s!"{job.1}")
    else
      let mark := if some index = (running.getLast?.map Prod.snd) then "+"
        else if some index = (running.dropLast.getLast?.map Prod.snd) then "-" else " "
      let number := if given.any (·.1 == 'l') then s!"{job.1} " else ""
      Sh.printLine (Utf8.encode
        ("[" ++ toString index ++ "] " ++ mark ++ " " ++ number ++ "Running                    "))
  pure 0

/-- Brings a job to the front, which is never possible. -/
def resumeJob (_args : List Bytes) : Sh Nat := Sh.failText "No current job"

end Signals
end LineShell.Machine.Script
