import LineShell.Text.Utf8

/-!
Paths as the shell holds them: bytes, joined but never rewritten. Only the file system gives `.`,
`..` and links a meaning.
-/

namespace LineShell

/-- A path: any bytes. -/
structure Path where
  bytes : Bytes
  deriving DecidableEq, Repr

/-- A name in a directory: any bytes without `/` and NUL. -/
abbrev Name := Bytes

namespace Path

/-- The byte between two names. -/
def slash : UInt8 := 0x2F

/-- A path written as text. -/
def ofString (s : String) : Path := ⟨Utf8.encode s⟩

/-- A path as it is shown. -/
def display (p : Path) : String := Utf8.decodeLossy p.bytes

/-- The path starts at the root. -/
def isAbsolute (p : Path) : Bool := p.bytes.head? == some slash

/-- Where `p` leads when it is taken from `base`: an absolute path leads to itself. -/
def join (base p : Path) : Path :=
  if p.isAbsolute then p
  else if base.bytes.isEmpty ∨ base.bytes.getLast? = some slash then ⟨base.bytes ++ p.bytes⟩
  else ⟨base.bytes ++ slash :: p.bytes⟩

/-- The pieces between the slashes, empty ones included. -/
def pieces : Bytes → List Bytes
  | [] => [[]]
  | b :: bs =>
    if b = slash then [] :: pieces bs
    else match pieces bs with
      | [] => [[b]]
      | p :: ps => (b :: p) :: ps

/-- The names along the path, without the empty ones. -/
def names (p : Path) : List Name := (pieces p.bytes).filter (· ≠ [])

/-- The path ends in a slash, so that it can only name a directory. -/
def endsInSlash (p : Path) : Bool := p.bytes.getLast? == some slash

/-- The end of a path, read backwards, without slashes and dots that mean nothing there. -/
def trimReversed : Bytes → Bytes
  | 0x2F :: b :: bs => trimReversed (b :: bs)
  | 0x2E :: 0x2F :: bs => trimReversed (0x2F :: bs)
  | bs => bs

/-- The path of the directory that holds what a path names, as far as its text says; the root and the
empty path have none. -/
def parent? (p : Path) : Option Path :=
  match trimReversed p.bytes.reverse with
  | [] | [0x2F] => none
  | bs => some ⟨(trimReversed (bs.dropWhile (· ≠ slash))).reverse⟩

/-- The path that leads through the given names from the root. -/
def ofNames (ns : List Name) : Path :=
  match ns with
  | [] => ⟨[slash]⟩
  | ns => ⟨ns.flatMap (slash :: ·)⟩

end Path
end LineShell
