import LineShell.Machine.Entries
import LineShell.Machine.Executing

/-!
How a machine answers the calls of its processes. A call that cannot be answered yet has no answer now: its
process tries again later. Every call takes some time, and starting a program takes long.
-/

namespace LineShell.Machine

/-- What a program does that is run with an environment. -/
abbrev Programs := Execution → Environment → Program

/-- Signals that nothing comes of unless they are kept for the program. -/
def harmlessSignals : List Nat := [0, 17, 18, 23, 28]

/-- Signals that stop a process without ending it. -/
def stoppingSignals : List Nat := [19, 20, 21, 22]

/-- Signals that cannot be caught. -/
def strictSignals : List Nat := [9, 19]

/-- The signal of a write that nobody reads. -/
def pipeSignal : Nat := 13

/-- The signal of a child that has ended. -/
def childSignal : Nat := 17

/-- What becomes of a signal in a process. -/
def Setting.disposition (s : Setting) (signal : Nat) : Disposition :=
  (s.signals.lookup signal).getD .standard

/-- The least number from a given one on that is no stream of the process. -/
def Setting.freeStream (s : Setting) (least : Nat) : Nat :=
  let used := s.streams.map Prod.fst
  ((List.range (used.length + 1)).map (least + ·)).find? (!used.contains ·) |>.getD least

/-- Makes a stream of a process lead to an open file. -/
def Setting.setStream (s : Setting) (stream number : Nat) : Setting :=
  { s with streams := update stream number s.streams }

/-- The streams that a program does not find when it is started by a running one. -/
def privateStreams : Nat := 10

/-- What a program is given by the process that turns into it. -/
def Setting.handedOver (s : Setting) : Setting :=
  { s with
    streams := s.streams.filter (·.1 < privateStreams)
    signals := s.signals.filter (·.2 == .ignored) }

/-- How long a call takes, in nanoseconds. -/
def Call.duration : Call → Nat
  | .read _ count => 1000 + count / 64
  | .write _ bytes => 1500 + bytes.length / 4
  | .execute _ _ _ => 700000
  | .sleep nanoseconds => 60000 + nanoseconds
  | _ => 1500

/-- How long it takes to start a process, and until that begins. -/
def forkDuration : Nat := 100000
def birthDuration : Nat := 150000

/-- The processes that wait may find that they need not wait any more after the call. -/
def Call.stirs : Call → Bool
  | .read _ _ => true
  | .write _ _ => true
  | .close _ => true
  | .duplicate _ _ => true
  | .execute _ _ _ => true
  | .signal _ _ => true
  | _ => false

/-- Replaces a process by what it has become. -/
def putProcess (m : Machine) (p : Process) : Machine :=
  { m with processes := m.processes.map fun q => if q.number = p.number then p else q }

/-- A process goes on with a program. -/
def goOn (m : Machine) (p : Process) (program : Program) : Machine := m.putProcess { p with program }

/-- A process ends: its parent may wait for it, and those that it has not waited for are forgotten. -/
def finish (m : Machine) (p : Process) (ending : Ending) : Machine :=
  let others := m.processes.filter (·.number ≠ p.number)
  let isAwaited := p.parent == shellNumber || others.any (·.number == p.parent)
  let others := others.map fun q =>
    if q.parent = p.number then { q with parent := 1 }
    else if q.number = p.parent ∧ q.setting.disposition childSignal = .caught then
      { q with arrived := q.arrived ++ [childSignal] }
    else q
  let ended := m.ended.filter (·.parent ≠ p.number)
  let own : List EndedProcess := if isAwaited then [⟨p.number, p.parent, ending⟩] else []
  { m with processes := others, ended := ended ++ own }.forgetClosed

/-- Sends a signal to a process. -/
def signalProcess (m : Machine) (number signal : Nat) : Except Errno Unit × Machine :=
  match m.processes.find? (·.number == number) with
  | none => (if number = shellNumber then .ok () else .error .esrch, m)
  | some p =>
    let disposition := if strictSignals.contains signal then .standard else p.setting.disposition signal
    match disposition with
    | .ignored => (.ok (), m)
    | .caught => (.ok (), m.putProcess { p with arrived := p.arrived ++ [signal] })
    | .standard =>
      if harmlessSignals.contains signal then (.ok (), m)
      else if stoppingSignals.contains signal then (.ok (), m.goOn p .forever)
      else (.ok (), m.finish p (.signalled signal))

/-- An ended process that another one may wait for. -/
def endedChild? (m : Machine) (parent : Nat) (child : Option Nat) : Option EndedProcess :=
  m.ended.find? fun e => e.parent == parent && child.all (· == e.number)

/-- A process that runs and that another one may wait for. -/
def hasChild (m : Machine) (parent : Nat) (child : Option Nat) : Bool :=
  m.processes.any fun p => p.parent == parent && child.all (· == p.number)

/-- A result whose failure is shown as an error number. -/
def asErrno {α : Type} (x : Except Fault α) : Except Errno α := x.mapError errnoOf

/-- The machine after a change, and whether it came about. -/
def changed (m : Machine) : Except Fault Machine → Except Errno Unit × Machine
  | .ok n => (.ok (), n)
  | .error e => (.error (errnoOf e), m)

/-- Answers a call that needs nothing but the machine and the setting of the process; the setting may change. -/
def answerCall (m : Machine) (p : Process) : (c : Call) → Option (c.Answer × Setting × Machine)
  | .read stream count =>
    match p.setting.streams.lookup stream with
    | none => some (.error .ebadf, p.setting, m)
    | some number => (m.readFrom number count).map fun (answer, m) => (answer, p.setting, m)
  | .write _ _ => none
  | .seek stream origin offset =>
    match p.setting.streams.lookup stream with
    | none => some (.error .ebadf, p.setting, m)
    | some number =>
      let (answer, m) := m.seekIn number origin offset
      some (answer, p.setting, m)
  | .cut stream size =>
    match p.setting.streams.lookup stream with
    | none => some (.error .ebadf, p.setting, m)
    | some number =>
      let (answer, m) := m.cutTo number size
      some (answer, p.setting, m)
  | .openFile path mode =>
    match m.openPath p.setting path mode with
    | .error e => some (.error (errnoOf e), p.setting, m)
    | .ok (number, m) =>
      let stream := p.setting.freeStream 0
      some (.ok stream, p.setting.setStream stream number, m)
  | .close stream =>
    match p.setting.streams.lookup stream with
    | none => some (.error .ebadf, p.setting, m)
    | some _ =>
      some (.ok (), { p.setting with streams := p.setting.streams.filter (·.1 ≠ stream) }, m)
  | .duplicate stream goal =>
    match p.setting.streams.lookup stream with
    | none => some (.error .ebadf, p.setting, m)
    | some number => some (.ok (), p.setting.setStream goal number, m)
  | .duplicateAbove stream least =>
    match p.setting.streams.lookup stream with
    | none => some (.error .ebadf, p.setting, m)
    | some number =>
      let goal := p.setting.freeStream least
      some (.ok goal, p.setting.setStream goal number, m)
  | .makePipe =>
    let ((r, w), m) := m.addPipe
    let reader := p.setting.freeStream 0
    let setting := p.setting.setStream reader r
    let writer := setting.freeStream 0
    some ((reader, writer), setting.setStream writer w, m)
  | .examine path follows => some (asErrno (m.examineEntry p.setting path follows), p.setting, m)
  | .examineStream stream =>
    match m.streamOf p.setting stream with
    | none => some (.error .ebadf, p.setting, m)
    | some f => some (.ok (m.statusOf f), p.setting, m)
  | .list path => some (asErrno (m.listEntry p.setting path), p.setting, m)
  | .makeDirectory path mode =>
    let (answer, m) := m.changed (m.makeDirectory p.setting path mode)
    some (answer, p.setting, m)
  | .unlink path =>
    let (answer, m) := m.changed (m.unlinkEntry p.setting path)
    some (answer, p.setting, m)
  | .removeDirectory path =>
    let (answer, m) := m.changed (m.removeDirectory p.setting path)
    some (answer, p.setting, m)
  | .rename source goal =>
    let (answer, m) := m.changed (m.renameEntry p.setting source goal)
    some (answer, ((m.processes.find? (·.number == p.number)).map Process.setting).getD p.setting, m)
  | .link source goal =>
    let (answer, m) := m.changed (m.linkEntry p.setting source goal)
    some (answer, p.setting, m)
  | .makeLink target path =>
    let (answer, m) := m.changed (m.makeLinkEntry p.setting target path)
    some (answer, p.setting, m)
  | .readLink path => some (asErrno (m.readLinkEntry p.setting path), p.setting, m)
  | .changeMode path mode =>
    let (answer, m) := m.changed (m.changeMode p.setting path mode)
    some (answer, p.setting, m)
  | .changeTime path time =>
    let (answer, m) := m.changed (m.changeTime p.setting path time)
    some (answer, p.setting, m)
  | .resolve path =>
    some (asErrno ((m.tree.canonical p.setting.directory path).map Path.bytes), p.setting, m)
  | .changeDirectory path =>
    match m.enterable p.setting path with
    | .error e => some (.error (errnoOf e), p.setting, m)
    | .ok directory => some (.ok (), { p.setting with directory }, m)
  | .directory =>
    let l := p.setting.directory
    some (if m.tree.isDirectory l then .ok (Path.ofNames l).bytes else .error .enoent, p.setting, m)
  | .setMask mask => some (p.setting.mask, { p.setting with mask := mask &&& 0o777 }, m)
  | .execute _ _ _ => none
  | .wait child =>
    match m.endedChild? p.number child with
    | some e =>
      some (.ok (e.number, e.ending), p.setting,
        { m with ended := m.ended.filter (·.number ≠ e.number) })
    | none =>
      if !m.hasChild p.number child then some (.error .echild, p.setting, m)
      else if p.arrived ≠ [] then some (.error .eintr, p.setting, m)
      else none
  | .signal _ _ => none
  | .dispose signal disposition =>
    let old := p.setting.disposition signal
    let signals := p.setting.signals.filter (·.1 ≠ signal)
    some (old, { p.setting with
      signals := if disposition = .standard then signals else (signal, disposition) :: signals }, m)
  | .takeSignals => none
  | .sleep _ => some ((), p.setting, m)
  | .clock => some (m.clock, p.setting, m)
  | .self => some (p.number, p.setting, m)
  | .parent => some (p.parent, p.setting, m)

/-- A process makes a call and goes on with the answer; none while it has to wait. -/
def perform (programs : Programs) (m : Machine) (p : Process) (c : Call) (next : c.Answer → Program) :
    Option Machine :=
  match c, next with
  | .write stream bytes, next =>
    match p.setting.streams.lookup stream with
    | none => some (m.goOn p (next (.error .ebadf)))
    | some number =>
      match m.writeTo number bytes with
      | .waits => none
      | .part rest m => some (m.goOn p (.call (.write stream rest) next))
      | .done (.error e) m =>
        if e = .epipe ∧ p.setting.disposition pipeSignal = .standard then
          some (m.finish p (.signalled pipeSignal))
        else some (m.goOn p (next (.error e)))
      | .done answer m => some (m.goOn p (next answer))
  | .execute path args environment, next =>
    match Execution.ofPath m.tree p.setting.directory path (args.headD []) (args.drop 1) with
    | .error e => some (m.goOn p (next (errnoOf e)))
    | .ok e =>
      some (m.goOn { p with setting := p.setting.handedOver, arrived := [] } (programs e environment))
  | .signal target signal, next =>
    let (answer, m) := (m.goOn p (next (.ok ()))).signalProcess target signal
    match answer with
    | .ok () => some m
    | .error e => some (m.goOn p (next (.error e)))
  | .takeSignals, next => some (m.goOn { p with arrived := [] } (next p.arrived))
  | c, next => (m.answerCall p c).map fun (answer, setting, m) => m.goOn { p with setting } (next answer)

end LineShell.Machine
