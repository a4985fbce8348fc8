import LineShell.Errno
import LineShell.Machine.FileTree

/-!
Where a path leads. A path is walked name by name through the tree: `.` stays, `..` goes back to the
directory that holds the present one, and a link is replaced by the names of its target, at most forty
times on one path. What is reached is therefore always a location that only directories lead to.
-/

namespace LineShell.Machine

/-- The most links that one path may go through. -/
def maxLinks : Nat := 40

/-- The greatest length of a name. -/
def maxName : Nat := 255

/-- A path must be shorter than this. -/
def maxPath : Nat := 4096

/-- The name that stands for the directory itself. -/
def dot : Name := [0x2E]

/-- The name that stands for the directory above. -/
def dotDot : Name := [0x2E, 0x2E]

/-- Where a path leads: to an entry, or to a name that its directory does not have. -/
inductive Place where
  | taken (location : Location)
  | free (location : Location)
  deriving DecidableEq, Repr

/-- What a walk is for. A link in the last place is followed or found itself; a file that is to be
created cannot have a name that ends in a slash. -/
inductive Purpose where
  | reach
  | find
  | create
  deriving DecidableEq, Repr

/-- The owner may search the directory. -/
def isSearchable (mode : Nat) : Bool := mode &&& 0o100 != 0

/-- Walks from a directory along names. `slashed` says that the last name has a slash behind it, so
that only a directory will do. -/
def walk (t : FileTree) (purpose : Purpose) (links : Nat) (here : Location) (slashed : Bool)
    (names : List Name) : Except Errno Place :=
  match names with
  | [] => .ok (.taken here)
  | name :: rest =>
    match t.get? here with
    | none => .error .enoent
    | some (.directory mode _) =>
      if !isSearchable mode then .error .eacces
      else if name = dot then walk t purpose links here slashed rest
      else if name = dotDot then walk t purpose links here.dropLast slashed rest
      else if rest = [] ∧ slashed ∧ purpose = .create then .error .eisdir
      else if maxName < name.length then .error .enametoolong
      else
        match t.get? (here ++ [name]) with
        | none => if rest = [] then .ok (.free (here ++ [name])) else .error .enoent
        | some (.directory _ _) => walk t purpose links (here ++ [name]) slashed rest
        | some (.link target) =>
          if rest = [] ∧ purpose = .find ∧ !slashed then .ok (.taken (here ++ [name]))
          else
            match links with
            | 0 => .error .eloop
            | links + 1 =>
              let goal : Path := ⟨target⟩
              if target = [] then .error .enoent
              else walk t purpose links (if goal.isAbsolute then [] else here)
                (slashed || (rest.isEmpty && goal.endsInSlash)) (goal.names ++ rest)
        | some _ =>
          if rest = [] ∧ !slashed then .ok (.taken (here ++ [name])) else .error .enotdir
    | some _ => .error .enotdir
termination_by (links, names.length)

/-- The location of an entry that is there. -/
def Place.existing : Place → Except Fault Location
  | .taken l => .ok l
  | .free _ => .error (.os .enoent)

namespace FileTree

/-- Walks a path from a directory, whatever its length. -/
def follow (t : FileTree) (purpose : Purpose) (base : Location) (path : Path) : Except Fault Place :=
  if path.bytes.contains 0 then .error .nulInPath
  else if path.bytes = [] then .error (.os .enoent)
  else (walk t purpose maxLinks (if path.isAbsolute then [] else base) path.endsInSlash
    path.names).mapError .os

/-- Walks a path that is not too long. -/
def locate (t : FileTree) (purpose : Purpose) (base : Location) (path : Path) :
    Except Fault Place :=
  if !path.bytes.contains 0 && maxPath ≤ path.bytes.length then .error (.os .enametoolong)
  else t.follow purpose base path

/-- The entry that a path leads to. -/
def reach (t : FileTree) (base : Location) (path : Path) : Except Fault Location := do
  Place.existing (← t.locate .reach base path)

/-- The entry that a path names, which may be a link. -/
def find (t : FileTree) (base : Location) (path : Path) : Except Fault Location := do
  Place.existing (← t.locate .find base path)

/-- The path of the entry that a path leads to, without dots and links. -/
def canonical (t : FileTree) (base : Location) (path : Path) : Except Fault Path := do
  pure (.ofNames (← Place.existing (← t.follow .reach base path)))

end FileTree
end LineShell.Machine
