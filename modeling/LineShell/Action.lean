import LineShell.Errno
import LineShell.Path
import LineShell.Status
import LineShell.Wildcard.Expansion

/-!
What the shell asks of its surroundings, and programs that ask. An `Action` is a tree: it is done with
a result, or it makes one request and goes on with whatever the answer is. The surroundings are any
machine that answers requests and changes while doing so (`System`); running an action on one gives
its result, and the list of requests made and answers received is the history of the run. Nothing is
assumed of the answers.
-/

namespace LineShell

/-- An open file or one end of a pipe, held by number. -/
structure Descriptor where
  number : Nat
  deriving DecidableEq, Repr

/-- A started program that has not been waited for. -/
structure Child where
  number : Nat
  deriving DecidableEq, Repr

/-- The two streams that the shell itself writes to. -/
inductive Channel where
  | out
  | err
  deriving DecidableEq, Repr

/-- What a path names. -/
inductive FileKind where
  | file
  | directory
  | other
  deriving DecidableEq, Repr

/-- A program to start. A stream that is not given is the shell's own. -/
structure Launch where
  program : Path
  args : List String
  directory : Path
  input : Option Descriptor := none
  output : Option Descriptor := none
  deriving DecidableEq, Repr

/-- One request to the surroundings. -/
inductive Request where
  | listDirectory (directory : Path)
  | canonicalize (path : Path)
  | examine (path : Path)
  | checkSearch (directory : Path)
  | createDirectory (path : Path)
  | makePipe
  | openInput (path : Path)
  | openOutput (path : Path)
  | openAppend (path : Path)
  | readAll (source : Option Descriptor)
  | read (source : Option Descriptor) (count : Nat)
  | append (target : Descriptor) (bytes : Bytes)
  | close (descriptor : Descriptor)
  | spawn (launch : Launch)
  | wait (child : Child)
  | write (channel : Channel) (bytes : Bytes)
  | flush (channel : Channel)
  | isTerminal
  | currentDirectory
  | getVariable (name : String)
  | setVariable (name : String) (value : Bytes)
  deriving DecidableEq, Repr

/-- What has been read of a source until its end, or until reading failed. -/
structure Reading where
  bytes : Bytes
  failure : Option Fault := none
  deriving DecidableEq, Repr

namespace Request

/-- What a request is answered with. -/
@[reducible] def Answer : Request → Type
  | .listDirectory _ => Listing
  | .canonicalize _ => Except Fault Path
  | .examine _ => Except Fault FileKind
  | .checkSearch _ => Except Errno Unit
  | .createDirectory _ => Except Fault Unit
  | .makePipe => Except Errno (Descriptor × Descriptor)
  | .openInput _ => Except Fault Descriptor
  | .openOutput _ => Except Fault Descriptor
  | .openAppend _ => Except Fault Descriptor
  | .readAll _ => Reading
  | .read _ _ => Except Fault Bytes
  | .append _ _ => Except Fault Unit
  | .close _ => Unit
  | .spawn _ => Except Fault Child
  | .wait _ => Except Fault WaitStatus
  | .write _ _ => Except Fault Unit
  | .flush _ => Except Fault Unit
  | .isTerminal => Bool
  | .currentDirectory => Except Fault Path
  | .getVariable _ => Option Bytes
  | .setVariable _ _ => Unit

end Request

/-- A program that may ask: a result, or a request and what to do with the answer. -/
inductive Action (α : Type) : Type where
  | done (result : α)
  | ask (request : Request) (next : request.Answer → Action α)

namespace Action

/-- Goes on with what an action results in. -/
def bind {α β : Type} : Action α → (α → Action β) → Action β
  | .done a, f => f a
  | .ask r next, f => .ask r fun answer => (next answer).bind f

instance : Monad Action where
  pure := .done
  bind := Action.bind

/-- Makes one request and results in its answer. -/
def request (r : Request) : Action r.Answer := .ask r .done

theorem bind_done {α : Type} (x : Action α) : x.bind .done = x := by
  induction x with
  | done a => rfl
  | ask r next ih => simp only [Action.bind, ih]

theorem bind_bind {α β γ : Type} (x : Action α) (f : α → Action β) (g : β → Action γ) :
    (x.bind f).bind g = x.bind fun a => (f a).bind g := by
  induction x with
  | done a => rfl
  | ask r next ih => simp only [Action.bind, ih]

instance : LawfulMonad Action :=
  LawfulMonad.mk' Action (fun x => bind_done x) (fun _ _ => rfl) (fun x f g => bind_bind x f g)

end Action

/-- A request and the answer it got. -/
structure Event where
  request : Request
  answer : request.Answer

/-- A machine that answers requests; `σ` is its state. -/
structure System (σ : Type) where
  answer : (r : Request) → σ → r.Answer × σ

namespace Action

/-- The result of an action on a system, and the state that it leaves. -/
def run {σ α : Type} (system : System σ) : Action α → σ → α × σ
  | .done a, s => (a, s)
  | .ask r next, s =>
    let (answer, t) := system.answer r s
    (next answer).run system t

/-- The requests that an action makes on a system and their answers, in order. -/
def history {σ α : Type} (system : System σ) : Action α → σ → List Event
  | .done _, _ => []
  | .ask r next, s =>
    let (answer, t) := system.answer r s
    ⟨r, answer⟩ :: (next answer).history system t

end Action
end LineShell
