import LineShell.Machine.Lookup
import LineShell.Text.Lines

/-!
What comes of executing a file. It must be a file with a right to be executed. A script names its
interpreter in its first line, and is then an argument of that. A name without a slash is looked for along a
search path.
-/

namespace LineShell.Machine

/-- What is run when a file is executed: a tool, the name that it is called by, and its arguments. -/
structure Execution where
  tool : Tool
  name : Bytes
  args : List Bytes
  deriving DecidableEq, Repr

namespace Execution

/-- How much of a script is looked at for its interpreter. -/
def lineSize : Nat := 256

/-- A space or a tab. -/
def isBlank (b : UInt8) : Bool := b == 0x20 || b == 0x09

/-- The name of an interpreter ends here. -/
def endsName (b : UInt8) : Bool := isBlank b || b == 0

/-- The interpreter that a script names, and the one argument that it may give it. A line that is cut off
must at least show where the name ends. -/
def interpreter? (data : Bytes) : Option (Bytes × List Bytes) :=
  match data.take lineSize with
  | 0x23 :: 0x21 :: rest =>
    let text := rest.takeWhile (· ≠ Lines.newline)
    let seen := text.dropWhile isBlank
    let isCut := text.length = rest.length ∧ lineSize ≤ data.length
    if isCut ∧ !seen.dropLast.any endsName then none
    else
      let line := ((if isCut then seen.dropLast else seen).reverse.dropWhile isBlank).reverse
      let program := line.takeWhile (!endsName ·)
      let argument := match line.drop program.length with
        | 0 :: _ => []
        | rest => (rest.dropWhile isBlank).takeWhile (· ≠ 0)
      if program = [] then none
      else some (program, if argument = [] then [] else [argument])
  | _ => none

/-- The greatest length of one argument, with the byte that ends it. -/
def maxArgument : Nat := 131072

/-- The greatest length of all arguments together. -/
def maxArguments : Nat := 2097152

/-- The arguments are more than a program can be given. -/
def isTooLong (args : List Bytes) : Bool :=
  args.any (maxArgument ≤ ·.length) || maxArguments ≤ (args.map fun a => a.length + 9).foldl (· + ·) 0

/-- The owner may execute the file. -/
def isExecutable (mode : Nat) : Bool := mode &&& 0o100 != 0

/-- How deep interpreters may be nested. -/
def maxDepth : Nat := 6

/-- What executing the file at a path runs. Interpreters may themselves be scripts, to some depth. -/
def ofPathWithin (t : FileTree) (base : Location) (name : Bytes) (args : List Bytes) :
    Nat → Path → Except Fault Execution
  | 0, _ => .error (.os .eloop)
  | depth + 1, path => do
    let l ← t.reach base path
    match t.get? l with
    | some (.tool tool) =>
      if isTooLong (name :: args) then throw (.os .e2big) else pure ⟨tool, name, args⟩
    | some (.file number) =>
      let b := t.body number
      if !isExecutable b.mode then throw (.os .eacces)
      else if isTooLong (name :: args) then throw (.os .e2big)
      else
        match interpreter? b.data with
        | none => throw (.os .enoexec)
        | some (program, extra) =>
          ofPathWithin t base program (extra ++ path.bytes :: args) depth ⟨program⟩
    | _ => throw (.os .eacces)

/-- What executing the file at a path runs. -/
def ofPath (t : FileTree) (base : Location) (path : Path) (name : Bytes) (args : List Bytes) :
    Except Fault Execution :=
  ofPathWithin t base name args maxDepth path

/-- The paths that a name may stand for along a search path. -/
def candidates (searchPath name : Bytes) : List Path :=
  (searchPath.splitOn 0x3A).map fun d => if d = [] then ⟨name⟩ else ⟨d ++ Path.slash :: name⟩

/-- Tries paths in turn. A name that is not there, or may not be executed there, is looked for further on;
if it is found nowhere, a refusal counts more than an absence. -/
def search (t : FileTree) (base : Location) (name : Bytes) (args : List Bytes) :
    List Path → Option Fault → Fault → Except Fault Execution
  | [], refused, last => .error (refused.getD last)
  | p :: ps, refused, _ =>
    match ofPath t base p name args with
    | .ok e => .ok e
    | .error e =>
      if e = .os .eacces then search t base name args ps (some e) e
      else if e = .os .enoent ∨ e = .os .enotdir then search t base name args ps refused e
      else .error e

/-- The search path where the environment has none. -/
def defaultSearchPath : Bytes := Utf8.encode "/bin:/usr/bin"

/-- What calling a program by name or by path runs. -/
def ofName (t : FileTree) (base : Location) (searchPath : Option Bytes) (name : Bytes)
    (args : List Bytes) : Except Fault Execution :=
  if name.contains Path.slash then ofPath t base ⟨name⟩ name args
  else if name = [] then .error (.os .enoent)
  else if maxName < name.length then .error (.os .enametoolong)
  else search t base name args (candidates (searchPath.getD defaultSearchPath) name) none (.os .enoent)

end Execution
end LineShell.Machine
