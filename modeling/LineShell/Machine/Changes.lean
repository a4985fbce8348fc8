import LineShell.Machine.Lookup
import LineShell.Machine.Opening
import LineShell.Text.ByteOrder

/-!
What has become of a directory: everything below it that is new, different or gone, in the order of the
bytes of the paths.
-/

namespace LineShell.Machine

/-- What a change has left at a path. -/
inductive EntryState where
  | directory
  | link (target : Bytes)
  | file (mode : Nat) (data : Bytes)
  | other
  deriving DecidableEq, Repr

namespace FileTree

/-- The state that a node shows. -/
def stateOf (t : FileTree) : Node → EntryState
  | .directory _ _ => .directory
  | .link target => .link target
  | .file number => .file (t.body number).mode (t.body number).data
  | .device _ | .tool _ | .stream _ => .other

/-- The path of a location, seen from a directory that it lies below. -/
def relativePath (root l : Location) : Bytes := [Path.slash].intercalate (l.drop root.length)

/-- What lies below a directory, by path. -/
def statesBelow (t : FileTree) (root : Location) : List (Bytes × EntryState) :=
  (t.below root).map fun e => (relativePath root e.1, t.stateOf e.2)

/-- The paths at which two trees differ, and what the later one has there. -/
def changesSince (t old : FileTree) (root : Location) : List (Bytes × Option EntryState) :=
  let before := old.statesBelow root
  let after := t.statesBelow root
  let changed := (after.filter fun e => before.lookup e.1 != some e.2).map fun e => (e.1, some e.2)
  let gone := (before.filter fun e => (after.lookup e.1).isNone).map fun e => (e.1, none)
  (changed ++ gone).mergeSort fun a b => (compareBytes a.1 b.1).isLE

/-- All that lies below a directory can be looked at by its owner. -/
def isVisible (t : FileTree) (root : Location) : Bool :=
  (t.below root).all fun e =>
    match e.2 with
    | .directory mode _ => isReadable mode && isSearchable mode
    | .file number => isReadable (t.body number).mode
    | _ => true

end FileTree
end LineShell.Machine
