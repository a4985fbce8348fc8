import LineShell.Machine.Executing
import LineShell.Machine.Script.Settings

/-!
What a shell does with the name of a command: it may be the name of a function, of a command of the shell, or
of a program that is looked for along the search path. Where a program was found is remembered.
-/

namespace LineShell.Machine.Script

/-- What the name of a command means. A program without an index is called by its path. -/
inductive Meaning where
  | function (body : Command)
  | builtin (isSpecial : Bool)
  | program (index : Option Nat)
  | missing (errno : Errno)

namespace Locating

/-- The commands of the shell itself, and whether they are special. -/
def builtins : List (String × Bool) := [
  (".", true), (":", true), ("[", false), ("alias", false), ("bg", false), ("break", true), ("cd", false),
  ("chdir", false), ("command", false), ("continue", true), ("echo", false), ("eval", true),
  ("exec", true), ("exit", true), ("export", true), ("false", false), ("fg", false), ("getopts", false),
  ("hash", false), ("jobs", false), ("kill", false), ("local", true), ("printf", false), ("pwd", false),
  ("read", false), ("readonly", true), ("return", true), ("set", true), ("shift", true), ("test", false),
  ("times", true), ("trap", true), ("true", false), ("type", false), ("ulimit", false),
  ("umask", false), ("unalias", false), ("unset", true), ("wait", false)]

/-- The commands that assign when their arguments look like it. -/
def assigners : List String := ["alias", "export", "local", "readonly"]

/-- The command of the shell that has a name. -/
def builtin? (name : Bytes) : Option (String × Bool) := builtins.find? fun b => Utf8.encode b.1 == name

/-- The search path that is used where the one of the shell shall not be. -/
def standardPath : Bytes := Utf8.encode "/usr/local/sbin:/usr/local/bin:/usr/sbin:/usr/bin:/sbin:/bin"

/-- The paths that a name may stand for. -/
def candidates (searchPath name : Bytes) : List Bytes :=
  (searchPath.splitOn 0x3A).map fun d => if d = [] then name else d ++ Path.slash :: name

/-- Looks for a program; what is in the way of finding it counts more than that it is not there. -/
def search : List Bytes → Nat → Errno → Sh Meaning
  | [], _, e => pure (.missing e)
  | path :: paths, index, e => do
    match ← Sh.call (.examine ⟨path⟩ true) with
    | .error f => search paths (index + 1) (if f = .enoent ∨ f = .enotdir then e else f)
    | .ok status =>
      if status.kind = .file ∧ Execution.isExecutable status.mode then pure (.program (some index))
      else search paths (index + 1) .eacces

/-- What a name means. `remembers` says that the place of a program is to be remembered. -/
def find (name : Bytes) (searchPath : Option Bytes) (withFunctions remembers : Bool) : Sh Meaning := do
  let s ← get
  if name.contains Path.slash then pure (.program none)
  else
    match (if withFunctions then s.functions.lookup name else none), builtin? name with
    | some body, _ => pure (.function body)
    | none, some (_, isSpecial) => pure (.builtin isSpecial)
    | none, none =>
      match searchPath, s.located.lookup name with
      | none, some index => pure (.program (some index))
      | _, _ => do
        let standard ← Sh.searchPath
        let found ← search (candidates (searchPath.getD standard) name) 0 .enoent
        match found, searchPath with
        | .program (some index), none =>
          if remembers then modify fun s => { s with located := s.located ++ [(name, index)] }
        | _, _ => pure ()
        pure found

/-- Why a program cannot be run. -/
def reason (e : Errno) : Bytes :=
  Utf8.encode (": " ++ (if e = .enoent ∨ e = .enotdir then "not found" else e.text))

/-- The interpreter of files that do not name one. -/
def interpreter : Bytes := Utf8.encode "/bin/sh"

/-- Runs a file in place of the shell; only a failure comes back. -/
def execute (path : Bytes) (args : List Bytes) (environment : Environment) : Sh Errno := do
  let e : Errno ← Sh.call (.execute ⟨path⟩ args environment)
  if e = .enoexec then
    let f : Errno ← Sh.call (.execute ⟨interpreter⟩ (interpreter :: path :: args.drop 1) environment)
    pure f
  else pure e

/-- Runs the first file that can be. -/
def executeFirst (args : List Bytes) (environment : Environment) : List Bytes → Errno → Sh Errno
  | [], e => pure e
  | path :: paths, e => do
    let f ← execute path args environment
    executeFirst args environment paths (if f = .enoent ∨ f = .enotdir then e else f)

/-- The status of a shell that could not run a program. -/
def statusOf (e : Errno) : Nat :=
  if e = .enoent ∨ e = .enotdir ∨ e = .eloop ∨ e = .enametoolong then 127 else 126

/-- Runs a program in place of the shell. -/
def become {α : Type} (searchPath : Bytes) (index : Nat) (args : List Bytes) : Sh α := do
  let name := args.headD []
  let environment ← Sh.environment
  let e ← if name.contains Path.slash then execute name args environment
    else executeFirst args environment ((candidates searchPath name).drop index) .enoent
  Sh.complain (name ++ reason e)
  Sh.leave (statusOf e)

/-! ### Telling -/

/-- The words that are keywords. -/
def keywords : List String :=
  ["!", "case", "do", "done", "elif", "else", "esac", "fi", "for", "if", "in", "then", "until", "while",
    "\x7b", "\x7d"]

/-- Tells what a name means, and gives the status. -/
def describe (name : Bytes) (searchPath : Option Bytes) (isVerbose : Bool) : Sh Nat := do
  let front : Bytes := if isVerbose then name else []
  let say (long short : Bytes) : Sh Nat := do
    Sh.printLine (front ++ (if isVerbose then long else short))
    pure 0
  let s ← get
  if keywords.any fun k => Utf8.encode k == name then say (Utf8.encode " is a shell keyword") name
  else
    match s.aliases.lookup name with
    | some value =>
      say (Utf8.encode " is an alias for " ++ value)
        (Utf8.encode "alias " ++ Settings.aliasText (name, value))
    | none =>
      let isKnown := searchPath.isNone && (s.located.lookup name).isSome
      let absent : Sh Nat := do
        if isVerbose then Sh.printLine (front ++ Utf8.encode ": not found")
        pure 127
      match ← find name searchPath true false with
      | .function _ => say (Utf8.encode " is a shell function") name
      | .builtin isSpecial =>
        say (Utf8.encode (if isSpecial then " is a special shell builtin" else " is a shell builtin")) name
      | .missing _ => absent
      | .program none => do
        match ← Sh.call (.examine ⟨name⟩ true) with
        | .ok _ => say (Utf8.encode " is " ++ name) name
        | .error _ => absent
      | .program (some index) => do
        let standard ← Sh.searchPath
        let path := (candidates (searchPath.getD standard) name).getD index []
        say (Utf8.encode (if isKnown then " is a tracked alias for " else " is ") ++ path) path

/-- Tells what names mean. -/
def describeAll (args : List Bytes) : Sh Nat := do
  let (_, operands) ← Sh.options "" args
  operands.foldlM (fun code name => do pure (code ||| (← describe name none true))) 0

/-- Tells what a name means, as options say. -/
def describeBy (args : List Bytes) : Sh Nat := do
  let (given, operands) ← Sh.options "pvV" args
  let searchPath := if given.any (·.1 == 'p') then some standardPath else none
  let asked := given.filter fun g => g.1 == 'v' || g.1 == 'V'
  match asked, operands with
  | [], _ | _, [] => pure 0
  | asked, name :: _ => describe name searchPath (asked.any (·.1 == 'V'))

/-- Remembers where programs are, forgets it, or shows it. -/
def hash (args : List Bytes) : Sh Nat := do
  let (given, operands) ← Sh.options "rv" args
  if given.any (·.1 == 'r') then
    modify fun s => { s with located := [] }
    pure 0
  else if operands = [] then
    let searchPath ← Sh.searchPath
    for place in List.range 31 do
      for (name, index) in (← get).located do
        if (name.foldl (fun v b => v + b.toNat) ((name.headD 0).toNat * 16)) % 31 = place then
          Sh.printLine ((candidates searchPath name).getD index [])
    pure 0
  else
    let mut code := 0
    for name in operands do
      modify fun s => { s with located := s.located.filter (·.1 ≠ name) }
      match ← find name none true true with
      | .missing e =>
        Sh.complain (name ++ reason e)
        code := 1
      | _ => pure ()
    pure code

end Locating
end LineShell.Machine.Script
