import LineShell.Path

/-!
The files of a machine. A file tree is a list of entries, each at its location: the names that lead
to it from the root, through directories only. The root is always there. What a path means, with its
dots and links, is not known here; a location has neither. What a file holds is kept apart, under a
number, so that entries can share it and an open file outlives its entry.
-/

namespace LineShell.Machine

/-- The names that lead to an entry from the root. -/
abbrev Location := List Name

/-- Files that hold no data of their own. -/
inductive Device where
  | null
  | zero
  | full
  deriving DecidableEq, Repr

/-- The programs that come with a machine. -/
inductive Tool where
  | base64
  | basename
  | cat
  | chmod
  | comm
  | cp
  | cut
  | dd
  | dir
  | dirname
  | echo
  | env
  | expand
  | expr
  | factor
  | falseTool
  | fold
  | grep
  | head
  | id
  | install
  | join
  | link
  | ln
  | ls
  | mkdir
  | mv
  | nice
  | nl
  | nohup
  | nproc
  | od
  | paste
  | printenv
  | printf
  | pwd
  | readlink
  | realpath
  | rm
  | rmdir
  | seq
  | sh
  | sleep
  | sort
  | split
  | stat
  | sum
  | sync
  | tac
  | tail
  | tee
  | test
  | timeout
  | touch
  | tr
  | trueTool
  | truncate
  | tsort
  | tty
  | uname
  | unexpand
  | uniq
  | unlink
  | wc
  | whoami
  | yes
  deriving DecidableEq, Repr

/-- What stands at a location. In a sealed directory nothing can be created. A stream entry leads to
whatever the process that opens it has as its stream of that number. -/
inductive Node where
  | directory (mode : Nat) (isSealed : Bool)
  | file (body : Nat)
  | link (target : Bytes)
  | device (device : Device)
  | stream (number : Nat)
  | tool (tool : Tool)
  deriving DecidableEq, Repr

/-- When every machine begins, in nanoseconds since the year 1970. -/
def beginning : Nat := 1735689600 * Nat.pow 10 9

/-- What a file holds, and when that was last changed. -/
structure Body where
  mode : Nat
  data : Bytes
  time : Nat := beginning
  deriving DecidableEq, Repr

/-- The rights of a new directory. -/
def directoryMode : Nat := 0o755

/-- The rights of a directory that belongs to the system. -/
def systemMode : Nat := 0o555

/-- The entries of a machine, each at its location, and the bodies of its files. -/
structure FileTree where
  entries : List (Location × Node) := []
  bodies : List (Nat × Body) := []
  next : Nat := 0
  deriving DecidableEq, Repr

namespace FileTree

/-- What stands at a location. -/
def get? (t : FileTree) (l : Location) : Option Node :=
  if l = [] then some (.directory systemMode false) else t.entries.lookup l

/-- Puts a node at a location, in place of what stands there. -/
def set (t : FileTree) (l : Location) (n : Node) : FileTree :=
  { t with entries := (l, n) :: t.entries.filter (·.1 ≠ l) }

/-- Removes what stands at a location. -/
def erase (t : FileTree) (l : Location) : FileTree :=
  { t with entries := t.entries.filter (·.1 ≠ l) }

/-- There is a directory at the location. -/
def isDirectory (t : FileTree) (l : Location) : Bool :=
  match t.get? l with
  | some (.directory _ _) => true
  | _ => false

/-- Nothing can be created in the directory at the location. -/
def isSealed (t : FileTree) (l : Location) : Bool :=
  match t.get? l with
  | some (.directory _ isSealed) => isSealed
  | _ => false

/-- The entries below a location. -/
def below (t : FileTree) (l : Location) : List (Location × Node) :=
  t.entries.filter fun e => l.isPrefixOf e.1 && l.length < e.1.length

/-- The names in a directory, the oldest first. -/
def names (t : FileTree) (l : Location) : List Name :=
  ((t.below l).filterMap fun e => if e.1.length = l.length + 1 then e.1.getLast? else none).reverse

/-- Puts a directory at a location unless something stands there. -/
def setDirectory (t : FileTree) (l : Location) : FileTree :=
  if (t.get? l).isSome then t else t.set l (.directory directoryMode false)

/-- Makes the directories that lead from one location along names, where there is nothing. -/
def setDirectories (t : FileTree) (base : Location) : List Name → FileTree
  | [] => t
  | n :: ns => (t.setDirectory (base ++ [n])).setDirectories (base ++ [n]) ns

/-! ### Bodies -/

/-- The body with a number. -/
def body (t : FileTree) (number : Nat) : Body := (t.bodies.lookup number).getD ⟨0, [], 0⟩

/-- Changes the body with a number. -/
def setBody (t : FileTree) (number : Nat) (b : Body) : FileTree :=
  { t with bodies := (number, b) :: t.bodies.filter (·.1 ≠ number) }

/-- Adds a body; its number is given back. -/
def addBody (t : FileTree) (b : Body) : Nat × FileTree :=
  (t.next, { t with bodies := (t.next, b) :: t.bodies, next := t.next + 1 })

/-- Puts a new file at a location. -/
def setFile (t : FileTree) (l : Location) (b : Body) : FileTree :=
  let (number, t) := t.addBody b
  t.set l (.file number)

/-- The entry at one location, and all below it, go to another one, in place of what stands there. -/
def move (t : FileTree) (source goal : Location) : FileTree :=
  let rest := t.entries.filter fun e => !goal.isPrefixOf e.1 || source.isPrefixOf e.1
  { t with entries := rest.map fun e =>
      if source.isPrefixOf e.1 then (goal ++ e.1.drop source.length, e.2) else e }

/-- How many entries share a body. -/
def countLinks (t : FileTree) (number : Nat) : Nat :=
  (t.entries.filter (·.2 == .file number)).length

end FileTree
end LineShell.Machine
