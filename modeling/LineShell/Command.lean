import LineShell.Token

/-!
What a line asks for: nothing, a builtin of the shell, or a plan of one or two external programs. Each
has a text, in which the arguments come first, then the input and then the output of a stage.
-/

namespace LineShell

/-- How many arguments a builtin takes, its own name not counted. -/
inductive Arity where
  | exactly (n : Nat)
  | any
  deriving DecidableEq, Repr

/-- The count is allowed. -/
def Arity.accepts : Arity → Nat → Bool
  | .exactly n, count => n == count
  | .any, _ => true

/-- The commands that the shell carries out itself. -/
inductive Builtin where
  | cd
  | pwd
  | which
  | exit
  deriving DecidableEq, Repr

namespace Builtin

/-- All builtins. -/
def all : List Builtin := [.cd, .pwd, .which, .exit]

/-- The name that a builtin is called by. -/
def name : Builtin → String
  | .cd => "cd"
  | .pwd => "pwd"
  | .which => "which"
  | .exit => "exit"

/-- How many arguments a builtin takes. -/
def arity : Builtin → Arity
  | .cd => .exactly 1
  | .pwd => .exactly 0
  | .which => .exactly 1
  | .exit => .any

/-- The builtin of exactly this name. -/
def ofName? (name : String) : Option Builtin := all.find? fun b => b.name == name

end Builtin

/-- A program to run, with its arguments, and the files that stand in for its streams. -/
structure Stage where
  args : List String := []
  input : Option String := none
  output : Option String := none
  deriving DecidableEq, Repr

namespace Stage

/-- A file stands in for a stream of the stage. -/
def hasRedirects (s : Stage) : Bool := s.input.isSome || s.output.isSome

/-- Makes a file the input or the output, in place of any that was named before. -/
def redirect (s : Stage) (kind : Redirect) (target : String) : Stage :=
  match kind with
  | .input => { s with input := some target }
  | .output => { s with output := some target }

/-- The text of a redirect. -/
def renderRedirect (kind : Redirect) : Option String → String
  | none => ""
  | some target => s!" {kind.symbol} {target}"

/-- The text of a stage. -/
def render (s : Stage) : String :=
  " ".intercalate s.args ++ renderRedirect .input s.input ++ renderRedirect .output s.output

end Stage

/-- One stage, or two joined by a pipe. -/
structure Plan where
  first : Stage
  second : Option Stage := none
  deriving DecidableEq, Repr

namespace Plan

/-- The plan has two stages. -/
def isPipeline (p : Plan) : Bool := p.second.isSome

/-- The text of a plan. -/
def render (p : Plan) : String :=
  match p.second with
  | none => p.first.render
  | some s => s!"{p.first.render} | {s.render}"

end Plan

/-- A builtin and the arguments after its name. -/
structure Invocation where
  builtin : Builtin
  args : List String
  deriving DecidableEq, Repr

/-- The text of an invocation. -/
def Invocation.render (i : Invocation) : String := " ".intercalate (i.builtin.name :: i.args)

/-- What a line asks for. -/
inductive Command where
  | empty
  | builtin (invocation : Invocation)
  | external (plan : Plan)
  deriving DecidableEq, Repr

namespace Command

/-- What the stages of a line ask for. The name of a builtin in the first place makes the line a call
of it; its redirects and its second stage then mean nothing. -/
def ofStages (first : Stage) (second : Option Stage) : Command :=
  match first.args with
  | [] => .external ⟨first, second⟩
  | name :: args =>
    match Builtin.ofName? name with
    | some b => .builtin ⟨b, args⟩
    | none => .external ⟨first, second⟩

/-- The text of a command. -/
def render : Command → String
  | .empty => ""
  | .builtin i => i.render
  | .external p => p.render

end Command
end LineShell
