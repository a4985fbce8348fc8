import LineShell.Machine.Program

/-!
Questions about files, as they are put to programs: each is a letter, and is answered by what is known of an
entry, or by that there is none.
-/

namespace LineShell.Machine

/-- A question about one entry. -/
inductive Question where
  | present
  | readable
  | writable
  | executable
  | file
  | directory
  | device
  | block
  | pipe
  | socket
  | link
  | filled
  | owned
  | setUser
  | setGroup
  | sticky
  deriving DecidableEq, Repr

namespace Question

/-- The question that a letter puts. -/
def ofLetter? (letter : Char) : Option Question :=
  [('e', present), ('r', readable), ('w', writable), ('x', executable), ('f', file), ('d', directory),
    ('c', device), ('b', block), ('p', pipe), ('S', socket), ('h', link), ('L', link), ('s', filled),
    ('O', owned), ('G', owned), ('u', setUser), ('g', setGroup), ('k', sticky)].lookup letter

/-- The question is about a link and not about what it leads to. -/
def follows (q : Question) : Bool := q != link

/-- The answer. -/
def answer (q : Question) : Except Errno EntryStatus → Bool
  | .error _ => false
  | .ok s =>
    match q with
    | .present => true
    | .readable => s.mode &&& 0o400 != 0
    | .writable => s.mode &&& 0o200 != 0
    | .executable => s.mode &&& 0o100 != 0
    | .file => s.kind == .file
    | .directory => s.kind == .directory
    | .device => s.kind == .device
    | .block => false
    | .pipe => s.kind == .pipe
    | .socket => false
    | .link => s.kind == .link
    | .filled => 0 < s.size
    | .owned => s.kind != .device
    | .setUser => s.mode &&& 0o4000 != 0
    | .setGroup => s.mode &&& 0o2000 != 0
    | .sticky => s.mode &&& 0o1000 != 0

end Question

/-- A question about two entries. -/
inductive Comparison where
  | newer
  | older
  | same
  deriving DecidableEq, Repr

namespace Comparison

/-- The question that two letters put. -/
def ofName? (name : String) : Option Comparison :=
  [("nt", newer), ("ot", older), ("ef", same)].lookup name

/-- The answer. An entry that is there is newer than one that is not. `needsBoth` says that there is no
answer if one of them is missing. -/
def answer (c : Comparison) (needsBoth : Bool) (left right : Except Errno EntryStatus) : Bool :=
  match c, left, right with
  | .newer, .ok l, .ok r => r.time < l.time
  | .older, .ok l, .ok r => l.time < r.time
  | .same, .ok l, .ok r => l.identity == r.identity
  | .newer, .ok _, .error _ => !needsBoth
  | .older, .error _, .ok _ => !needsBoth
  | _, _, _ => false

end Comparison
end LineShell.Machine
