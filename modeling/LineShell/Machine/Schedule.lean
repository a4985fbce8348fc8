import LineShell.Machine.Answering

/-!
Many processes at once. Each of them has its own time, and the one that is furthest behind goes next; of
several, the oldest. So a process that sleeps lets the others go first, and whatever one does is seen by the
others from then on. A process that has to wait is tried again when something has happened that it may be
waiting for.
-/

namespace LineShell.Machine

/-- How far behind a process is; those that wait do not count. -/
def isBehind (p q : Process) : Bool := p.time < q.time || (p.time == q.time && p.number < q.number)

/-- The process that goes next. -/
def nextProcess? (m : Machine) : Option Process :=
  m.processes.foldl (fun best p =>
    if p.isWaiting then best
    else match best with
      | none => some p
      | some q => if isBehind p q then some p else best) none

/-- Whoever waits tries again. -/
def stir (m : Machine) : Machine :=
  { m with processes := m.processes.map fun p =>
      if p.isWaiting then { p with isWaiting := false, time := max p.time m.clock } else p }

/-- A new process, that is started by another one. -/
def addProcess (m : Machine) (parent : Nat) (setting : Setting) (program : Program) (time : Nat) :
    Nat × Machine :=
  (m.nextProcess, { m with
    processes := m.processes ++ [{ number := m.nextProcess, parent, setting, program, time }]
    nextProcess := m.nextProcess + 1 })

/-- A process takes its next step. -/
def stepProcess (programs : Programs) (m : Machine) (p : Process) : Machine :=
  match p.program with
  | .ended ending => (m.finish p ending).stir
  | .forever => m.putProcess { p with isWaiting := true }
  | .fork child next =>
    let time := p.time + forkDuration
    let (number, m) := m.addProcess p.number p.setting child (time + birthDuration)
    m.goOn { p with time } (next number)
  | .call c next =>
    match m.perform programs { p with time := p.time + c.duration } c next with
    | none => m.putProcess { p with isWaiting := true }
    | some m => if c.stirs then m.stir else m

/-- The machine takes a step, if some process can. -/
def step? (programs : Programs) (m : Machine) : Option Machine :=
  m.nextProcess?.map fun p => stepProcess programs { m with clock := max m.clock p.time } p

/-- How a process of the shell ended, once it has; the others run on until then. There is no answer if all
wait for each other, or if it takes too long. -/
def awaitEnding (programs : Programs) (child : Nat) : Nat → Machine → Option (Ending × Machine)
  | 0, _ => none
  | rounds + 1, m =>
    match m.endedChild? shellNumber (some child) with
    | some e => some (e.ending, { m with ended := m.ended.filter (·.number ≠ child) })
    | none =>
      match m.step? programs with
      | none => none
      | some m => awaitEnding programs child rounds m

/-- The most steps that are taken before a wait is given up. -/
def maxSteps : Nat := 100000000

end LineShell.Machine
