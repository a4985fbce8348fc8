import LineShell.Machine.Schedule
import LineShell.Machine.Toolbox

/-!
A machine as surroundings of the shell. It answers every request of an action, and is changed by it. The
programs that the shell has started run on while it waits for one of them.
-/

namespace LineShell.Machine

/-- The shell holds an open file from now on. -/
def hold (m : Machine) (number : Nat) : Descriptor × Machine :=
  (⟨number⟩, { m with held := number :: m.held })

/-- The answer to a request to open, with the machine that it leaves. -/
def opened (m : Machine) : Except Fault (Nat × Machine) → Except Fault Descriptor × Machine
  | .error e => (.error e, m)
  | .ok (number, m) =>
    let (d, m) := m.hold number
    (.ok d, m)

/-- What a path names. -/
def kindOf (m : Machine) (path : Path) : Except Fault FileKind := do
  let status ← m.examineEntry m.shellSetting path true
  pure <| match status.kind with
    | .directory => .directory
    | .file => .file
    | _ => .other

/-- How the shell opens a file for writing. -/
def outputMode (appends : Bool) : OpenMode :=
  { writes := true, creates := true, truncates := !appends, appends }

/-- Reads some bytes for the shell. Where it would have to wait it is interrupted. -/
def readChunk (m : Machine) (number count : Nat) : Except Fault Bytes × Machine :=
  match m.readFrom number count with
  | none => (.error (.os .eintr), m)
  | some (.ok bytes, m) => (.ok bytes, m)
  | some (.error e, m) => (.error (.os e), m)

/-- How much is read at a time, and how often, before reading to the end is given up. -/
def readingSize : Nat := 65536

/-- Reads an open file to its end. -/
def readToEnd (number : Nat) : Nat → Machine → List Bytes → Reading × Machine
  | 0, m, _ => (⟨[], some (.os .eintr)⟩, m)
  | rounds + 1, m, chunks =>
    match m.readChunk number readingSize with
    | (.error e, m) => (⟨chunks.reverse.flatten, some e⟩, m)
    | (.ok [], m) => (⟨chunks.reverse.flatten, none⟩, m)
    | (.ok chunk, m) => readToEnd number rounds m (chunk :: chunks)

/-- How long it takes the shell to start a program, and the program to begin, in nanoseconds. -/
def launchDuration : Nat := 400000
def beginDuration : Nat := 1000000

/-- Starts a program for the shell: its directory is entered first, and then the program is looked for. -/
def start (m : Machine) (launch : Launch) : Except Fault (Nat × Machine) := do
  let name := launch.program.bytes
  let args := launch.args.map Utf8.encode
  if (name :: launch.directory.bytes :: args).any (·.contains 0) then throw .nulInArgument
  else
    let directory ← m.enterable m.shellSetting launch.directory
    let searchPath := m.environment.lookup (Utf8.encode "PATH")
    let execution ← Execution.ofName m.tree directory searchPath name args
    let input := (launch.input.map Descriptor.number).getD 0
    let output := (launch.output.map Descriptor.number).getD 1
    let setting : Setting := { directory, streams := [(0, input), (1, output), (2, 2)] }
    let time := m.clock + beginDuration
    let (number, m) := m.addProcess shellNumber setting (programs execution m.environment) time
    pure (number, { m with clock := m.clock + launchDuration })

/-- Waits for a process. Waiting for one that never ends is interrupted. -/
def await (m : Machine) (number : Nat) : Except Fault WaitStatus × Machine :=
  if (m.endedChild? shellNumber (some number)).isNone ∧ !m.hasChild shellNumber (some number) then
    (.error (.os .echild), m)
  else
    match awaitEnding programs number maxSteps m.stir with
    | none => (.error (.os .eintr), m)
    | some (ending, m) => (.ok ending.waitStatus, m)

/-- Writes bytes of the shell's own. A stream that is closed takes none. -/
def writeOwn (m : Machine) (channel : Channel) (bytes : Bytes) : Except Fault Unit × Machine :=
  if bytes = [] then (.ok (), m)
  else if m.closed.contains channel then (.error (.os .epipe), m)
  else (.ok (), { m with console := ⟨.shell, channel, bytes⟩ :: m.console })

/-- Writes bytes to an open file of the shell. -/
def appendTo (m : Machine) (number : Nat) (bytes : Bytes) : Except Fault Unit × Machine :=
  match m.writeTo number bytes with
  | .done (.ok ()) m => (.ok (), m)
  | .done (.error e) m => (.error (.os e), m)
  | .part _ m => (.error (.os .eintr), m)
  | .waits => (.error (.os .eintr), m)

/-- The value of a variable. An entry of an environment is a text with a sign in it, and what stands before
the sign may hold another one. -/
def valueIn (environment : Environment) (name : Bytes) : Option Bytes :=
  if name = [] then none
  else environment.findSome? fun v =>
    let front := name ++ [0x3D]
    let entry := v.1 ++ 0x3D :: v.2
    if front.isPrefixOf entry then some (entry.drop front.length) else none

/-- Answers a request. -/
def answer (r : Request) (m : Machine) : r.Answer × Machine :=
  match r with
  | .listDirectory d => (m.listEntry m.shellSetting d, m)
  | .canonicalize p => (m.tree.canonical m.directory p, m)
  | .examine p => (m.kindOf p, m)
  | .checkSearch d => (((m.enterable m.shellSetting d).mapError errnoOf).map fun _ => (), m)
  | .createDirectory p =>
    match m.makeDirectory m.shellSetting p 0o777 with
    | .ok m => (.ok (), m)
    | .error e => (.error e, m)
  | .makePipe =>
    let ((r, w), m) := m.addPipe
    let (reader, m) := m.hold r
    let (writer, m) := m.hold w
    (.ok (reader, writer), m)
  | .openInput p => m.opened (m.openPath m.shellSetting p { reads := true })
  | .openOutput p => m.opened (m.openPath m.shellSetting p (outputMode false))
  | .openAppend p => m.opened (m.openPath m.shellSetting p (outputMode true))
  | .readAll source => readToEnd ((source.map Descriptor.number).getD 0) maxSteps m []
  | .read source count => m.readChunk ((source.map Descriptor.number).getD 0) count
  | .append d bytes => m.appendTo d.number bytes
  | .close d => ((), { m with held := m.held.erase d.number }.forgetClosed)
  | .spawn launch =>
    match m.start launch with
    | .ok (number, m) => (.ok ⟨number⟩, m)
    | .error e => (.error e, m)
  | .wait child => m.await child.number
  | .write channel bytes => m.writeOwn channel bytes
  | .flush _ => (.ok (), m)
  | .isTerminal => (m.isTerminal, m)
  | .currentDirectory =>
    if m.tree.isDirectory m.directory then (.ok (.ofNames m.directory), m)
    else (.error (.os .enoent), m)
  | .getVariable name => (valueIn m.environment (Utf8.encode name), m)
  | .setVariable name value =>
    ((), { m with environment := update (Utf8.encode name) value m.environment })

/-- Machines as surroundings. -/
def system : System Machine := ⟨answer⟩

end LineShell.Machine
