import LineShell.Machine.Script.Expansion

/-!
Redirecting the streams of a shell around a command. What a stream was before is kept above the streams that
commands can name, and put back afterwards.
-/

namespace LineShell.Machine.Script

/-- A redirection whose words have been expanded. -/
inductive Target where
  | file (stream : Nat) (use : FileUse) (path : Bytes)
  | copy (stream : Nat) (source : Option Nat)
  | document (stream : Nat) (document : Document)

/-- What has become of a stream that is redirected: it was closed before, it is kept as another one, or there
is nothing to put back. -/
inductive Kept where
  | nothing
  | closed
  | moved (stream : Nat)
  deriving DecidableEq, Repr

/-- The streams that are redirected. -/
abbrev Frame := List (Nat × Kept)

namespace Redirecting

/-- The least number of a stream that is kept. -/
def leastKept : Nat := 10

/-- The stream that a target is about. -/
def streamOf : Target → Nat
  | .file stream _ _ | .copy stream _ | .document stream _ => stream

/-- Expands the words of a redirection. -/
def expand (run : Runner) (finish : Shell → Except Stop Nat → Work Nat) : Redirection → Sh Target
  | .file stream use w => do pure (.file stream use (← Expansion.single run finish false w).bytes)
  | .stream stream source => pure (.copy stream source)
  | .streamOf stream w => do
    match (← Expansion.single run finish false w).bytes with
    | [d] =>
      if isDigit d then pure (.copy stream (some (d.toNat - 0x30)))
      else if d = 0x2D then pure (.copy stream none)
      else Sh.failText "Syntax error: Bad fd number"
    | _ => Sh.failText "Syntax error: Bad fd number"
  | .document stream number => do
    pure (.document stream (((← get).documents.lookup number).getD (.fixed [])))

/-- Why a file could not be opened or created. -/
def reason (absence : String) (e : Errno) : Bytes :=
  Utf8.encode (if e = .enoent ∨ e = .enotdir then absence else e.text)

/-- Opens a file. -/
def openPath (path : Bytes) (mode : OpenMode) : Sh Nat := do
  match ← Sh.call (.openFile ⟨path⟩ mode) with
  | .ok stream => pure stream
  | .error e =>
    if mode.creates then
      Sh.fail (Utf8.encode "cannot create " ++ path ++ Utf8.encode ": " ++ reason "Directory nonexistent" e)
    else Sh.fail (Utf8.encode "cannot open " ++ path ++ Utf8.encode ": " ++ reason "No such file" e)

/-- Opens a file for writing that must not be there yet; what is no file may be. -/
def openNew (path : Bytes) : Sh Nat := do
  match ← Sh.call (.examine ⟨path⟩ true) with
  | .error _ => openPath path { writes := true, creates := true, isExclusive := true }
  | .ok status =>
    if status.kind = .file then
      Sh.fail (Utf8.encode "cannot create " ++ path ++ Utf8.encode ": " ++ reason "" .eexist)
    else
      match ← Sh.call (.openFile ⟨path⟩ { writes := true }) with
      | .ok stream => pure stream
      | .error e =>
        Sh.fail (Utf8.encode "cannot create " ++ path ++ Utf8.encode ": " ++
          reason "Directory nonexistent" e)

/-- Documents up to this size fit into a pipe. -/
def pipeSize : Nat := 4096

/-- Makes a stream that gives the bytes of a document. -/
def openDocument (bytes : Bytes) : Sh Nat := do
  let (reader, writer) : Nat × Nat ← Sh.call .makePipe
  if bytes.length ≤ pipeSize then
    let _ ← Sh.writeTo writer bytes
  else
    let _ ← Sh.fork (do
      let _ ← Sh.call (.close reader)
      let _ ← Sh.writeTo writer bytes
      pure 0) fun _ _ => pure 0
  let _ ← Sh.call (.close writer)
  pure reader

/-- Opens what a stream is redirected to. -/
def openTarget (run : Runner) (finish : Shell → Except Stop Nat → Work Nat) : Target → Sh (Option Nat)
  | .copy _ source => pure source
  | .file _ use path => do
    pure <| some <| ← match use with
      | .read => openPath path { reads := true }
      | .readWrite => openPath path { reads := true, writes := true, creates := true }
      | .append => openPath path { writes := true, creates := true, appends := true }
      | .overwrite => openPath path { writes := true, creates := true, truncates := true }
      | .write => do
        if ← Sh.hasOption 'C' then openNew path
        else openPath path { writes := true, creates := true, truncates := true }
  | .document _ document => do
    let bytes ← match document with
      | .fixed bytes => pure bytes
      | .word w => do pure (← Expansion.single run finish false w).bytes
    pure (some (← openDocument bytes))

/-- Makes a stream lead to where an opened one does. -/
def connect (target : Target) (opened : Option Nat) : Sh Unit := do
  let stream := streamOf target
  match target, opened with
  | .copy _ _, some source =>
    match ← Sh.call (.duplicate source stream) with
    | .ok () => pure ()
    | .error e => Sh.fail (Utf8.encode s!"{source}: {e.text}")
  | _, none => do
    let _ ← Sh.call (.close stream)
  | _, some source => do
    let _ ← Sh.call (.duplicate source stream)
    let _ ← Sh.call (.close source)

/-- Keeps a stream that will be redirected to another one. -/
def keep (stream : Nat) (opened : Option Nat) : Sh Kept := do
  let kept ← if opened = some stream then pure Kept.closed
    else
      match ← Sh.call (.duplicateAbove stream leastKept) with
      | .ok other => do
        let _ ← Sh.call (.close stream)
        pure (Kept.moved other)
      | .error _ => pure .closed
  pure (if kept = .closed ∧ opened.isNone then .nothing else kept)

/-- Redirects streams in turn, up to one that cannot be; what has to be put back is given back in any case. -/
def redirect (run : Runner) (finish : Shell → Except Stop Nat → Work Nat) (keeps : Bool) :
    List Target → Frame → Sh (Frame × Except Stop Unit)
  | [], frame => pure (frame, .ok ())
  | target :: targets, frame => do
    let stream := streamOf target
    match ← Sh.attempt (openTarget run finish target) with
    | .error e => pure (frame, .error e)
    | .ok opened =>
      let isSame := match target with
        | .copy _ (some source) => source == stream
        | _ => false
      if isSame then redirect run finish keeps targets frame
      else
        let frame ← if keeps ∧ !frame.any (·.1 == stream) then do
            let kept ← keep stream opened
            pure ((stream, kept) :: frame)
          else pure frame
        if opened = some stream then redirect run finish keeps targets frame
        else
          match ← Sh.attempt (connect target opened) with
          | .error e => pure (frame, .error e)
          | .ok () => redirect run finish keeps targets frame

/-- Puts back what streams were. -/
def restore : Frame → Sh Unit
  | [] => pure ()
  | (stream, kept) :: frame => do
    match kept with
    | .nothing => pure ()
    | .closed => do
      let _ ← Sh.call (.close stream)
    | .moved other => do
      let _ ← Sh.call (.duplicate other stream)
      let _ ← Sh.call (.close other)
    restore frame

/-- Leaves streams as they have become. -/
def drop : Frame → Sh Unit
  | [] => pure ()
  | (_, kept) :: frame => do
    match kept with
    | .moved other => do
      let _ ← Sh.call (.close other)
    | _ => pure ()
    drop frame

/-- The stream on which commands are traced while streams are redirected. -/
def traceStream (frame : Frame) : Nat :=
  match frame.lookup 2 with
  | some (.moved other) => other
  | _ => 2

end Redirecting
end LineShell.Machine.Script
