import LineShell.Machine.State

/-!
Opening files, and what flows through them. A pipe holds so many bytes at a time; a reader waits until
there are some, and a writer until there is room, as long as the other end is open.
-/

namespace LineShell.Machine

/-- The owner may read. -/
def isReadable (mode : Nat) : Bool := mode &&& 0o400 != 0

/-- The owner may write. -/
def isWritable (mode : Nat) : Bool := mode &&& 0o200 != 0

/-- Entries can be made and removed in the directory at a location. -/
def checkEntries (t : FileTree) (l : Location) : Except Fault Unit :=
  match t.get? l with
  | some (.directory mode isSealed) =>
    if isSealed then .error (.os .enoent)
    else if isWritable mode && isSearchable mode then .ok ()
    else .error (.os .eacces)
  | _ => .error (.os .enoent)

/-- Opens the body with a number. -/
def openBody (m : Machine) (number : Nat) (mode : OpenMode) : Except Fault (Nat × Machine) :=
  let b := m.tree.body number
  if (mode.reads && !isReadable b.mode) || (mode.writes && !isWritable b.mode) then
    .error (.os .eacces)
  else
    let m := if mode.truncates then
        { m with tree := m.tree.setBody number { b with data := [], time := m.now } }
      else m
    .ok (m.addFile {
      endpoint := .body number, reads := mode.reads, writes := mode.writes, appends := mode.appends })

/-- Opens what is no file of the tree. -/
def openEndpoint (m : Machine) (endpoint : Endpoint) (mode : OpenMode) : Nat × Machine :=
  m.addFile { endpoint, reads := mode.reads, writes := mode.writes, appends := mode.appends }

/-- Opens what an open file leads to once more. -/
def reopen (m : Machine) (f : OpenFile) (mode : OpenMode) : Except Fault (Nat × Machine) :=
  match f.endpoint with
  | .body number => m.openBody number mode
  | .directory _ => if mode.writes then .error (.os .eisdir) else .ok (m.openEndpoint f.endpoint mode)
  | endpoint => .ok (m.openEndpoint endpoint mode)

/-- The open file that a stream of a process leads to. -/
def streamOf (m : Machine) (s : Setting) (stream : Nat) : Option OpenFile :=
  (s.streams.lookup stream).bind fun number => m.files.lookup number

/-- Opens what stands at a location. -/
def openEntry (m : Machine) (s : Setting) (l : Location) (mode : OpenMode) :
    Except Fault (Nat × Machine) :=
  match m.tree.get? l with
  | some (.directory rights _) =>
    if mode.writes || mode.creates then .error (.os .eisdir)
    else if isReadable rights then .ok (m.openEndpoint (.directory l) mode)
    else .error (.os .eacces)
  | some (.file number) => m.openBody number mode
  | some (.device d) => .ok (m.openEndpoint (.device d) mode)
  | some (.stream n) =>
    match m.streamOf s n with
    | some f => m.reopen f mode
    | none => .error (.os .enoent)
  | some (.tool _) =>
    if mode.writes then .error (.os .eacces) else .ok (m.openEndpoint (.device .null) mode)
  | some (.link _) => .error (.os .eloop)
  | none => .error (.os .enoent)

/-- Opens what a path leads to. -/
def openPath (m : Machine) (s : Setting) (path : Path) (mode : OpenMode) :
    Except Fault (Nat × Machine) := do
  let purpose :=
    if mode.isExclusive ∧ !path.endsInSlash then Purpose.find else if mode.creates then .create else .reach
  match ← m.tree.locate purpose s.directory path with
  | .free l =>
    if mode.creates then
      checkEntries m.tree l.dropLast
      let rights := mode.rights &&& (0o7777 ^^^ s.mask)
      let (number, tree) := m.tree.addBody ⟨rights, [], m.now⟩
      pure ({ m with tree := tree.set l (.file number) }.addFile {
        endpoint := .body number, reads := mode.reads, writes := mode.writes, appends := mode.appends })
    else throw (.os .enoent)
  | .taken l => if mode.isExclusive then throw (.os .eexist) else m.openEntry s l mode

/-! ### Reading -/

/-- How many bytes a pipe holds. -/
def pipeSize : Nat := 65536

/-- How many bytes are written to a pipe in one piece. -/
def pieceSize : Nat := 4096

/-- Reads at most so many bytes from an open file; there is no answer as long as one has to wait for it. -/
def readFrom (m : Machine) (number count : Nat) : Option (Except Errno Bytes × Machine) :=
  match m.files.lookup number with
  | none => some (.error .ebadf, m)
  | some f =>
    if !f.reads then some (.error .ebadf, m)
    else
      match f.endpoint with
      | .body b =>
        let bytes := ((m.tree.body b).data.drop f.offset).take count
        if bytes = [] then some (.ok [], m)
        else some (.ok bytes, { m with
          files := update number { f with offset := f.offset + bytes.length } m.files })
      | .directory _ => some (.error .eisdir, m)
      | .device .null => some (.ok [], m)
      | .device _ => some (.ok (List.replicate count 0), m)
      | .console _ => some (.error .ebadf, m)
      | .pipe n =>
        let waiting := (m.pipes.lookup n).getD []
        if waiting = [] then (if m.hasWriter n then none else some (.ok [], m))
        else some (.ok (waiting.take count), { m with pipes := update n (waiting.drop count) m.pipes })

/-! ### Writing -/

/-- How far writing has got: it is done, some bytes are left, or one has to wait. -/
inductive Written where
  | done (result : Except Errno Unit) (m : Machine)
  | part (rest : Bytes) (m : Machine)
  | waits

/-- Puts bytes into data at an offset, over what is there. -/
def splice (data : Bytes) (offset : Nat) (bytes : Bytes) : Bytes :=
  if offset = data.length then data ++ bytes
  else data.take offset ++ List.replicate (offset - data.length) 0 ++ bytes ++
    data.drop (offset + bytes.length)

/-- Writes bytes to an open file. -/
def writeTo (m : Machine) (number : Nat) (bytes : Bytes) : Written :=
  match m.files.lookup number with
  | none => .done (.error .ebadf) m
  | some f =>
    if !f.writes then .done (.error .ebadf) m
    else if bytes = [] then .done (.ok ()) m
    else
      match f.endpoint with
      | .directory _ => .done (.error .ebadf) m
      | .device .full => .done (.error ⟨28⟩) m
      | .device _ => .done (.ok ()) m
      | .console channel =>
        .done (.ok ()) { m with console := ⟨.program, channel, bytes⟩ :: m.console }
      | .body n =>
        let b := m.tree.body n
        let offset := if f.appends then b.data.length else f.offset
        .done (.ok ()) { m with
          tree := m.tree.setBody n { b with data := splice b.data offset bytes, time := m.now }
          files := update number { f with offset := offset + bytes.length } m.files }
      | .pipe n =>
        if !m.hasReader n then .done (.error .epipe) m
        else
          let waiting := (m.pipes.lookup n).getD []
          let room := pipeSize - waiting.length
          if bytes.length ≤ room then
            .done (.ok ()) { m with pipes := update n (waiting ++ bytes) m.pipes }
          else if room = 0 ∨ bytes.length ≤ pieceSize then .waits
          else .part (bytes.drop room)
            { m with pipes := update n (waiting ++ bytes.take room) m.pipes }

/-! ### Places in a file -/

/-- Sets the place where reading and writing go on. -/
def seekIn (m : Machine) (number : Nat) (origin : Origin) (offset : Int) :
    Except Errno Nat × Machine :=
  match m.files.lookup number with
  | none => (.error .ebadf, m)
  | some f =>
    match f.endpoint with
    | .body n =>
      let base : Int := match origin with
        | .start => 0
        | .here => f.offset
        | .stop => (m.tree.body n).data.length
      if base + offset < 0 then (.error .einval, m)
      else
        let place := (base + offset).toNat
        (.ok place, { m with files := update number { f with offset := place } m.files })
    | .device _ => (.ok 0, m)
    | .directory _ => (.ok 0, m)
    | .pipe _ | .console _ => (.error .espipe, m)

/-- Cuts a file off, or fills it up with zeros. -/
def cutTo (m : Machine) (number size : Nat) : Except Errno Unit × Machine :=
  match m.files.lookup number with
  | none => (.error .ebadf, m)
  | some f =>
    match f.endpoint with
    | .body n =>
      if !f.writes then (.error .einval, m)
      else
        let b := m.tree.body n
        let data := b.data.take size ++ List.replicate (size - b.data.length) 0
        (.ok (), { m with tree := m.tree.setBody n { b with data, time := m.now } })
    | _ => (.error .einval, m)

/-- What is known of an open file. -/
def statusOf (m : Machine) (f : OpenFile) : EntryStatus :=
  match f.endpoint with
  | .body n =>
    let b := m.tree.body n
    { kind := .file, identity := .body n, mode := b.mode, size := b.data.length
      links := m.tree.countLinks n, time := b.time }
  | .directory l => { kind := .directory, identity := .location l, mode := directoryMode }
  | .device d => { kind := .device, identity := .device d, mode := 0o666 }
  | .pipe n => { kind := .pipe, identity := .pipe n, mode := 0o600 }
  | .console channel => { kind := .pipe, identity := .console (channel == .err), mode := 0o600 }

end LineShell.Machine
