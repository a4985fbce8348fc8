import LineShell.Machine.Tools.Job

/-!
Streams that are read line by line, where lines of several of them are wanted in turn.
-/

namespace LineShell.Machine

/-- A stream that is read line by line: what has been read of it and is not yet used, the last piece of a line
that is not yet complete first, and whether it has ended. -/
structure LineSource where
  stream : Nat
  delimiter : UInt8 := 0x0A
  lines : List Bytes := []
  unfinished : List Bytes := []
  isOver : Bool := false

/-- What the next line is: a line, nothing, or a failure. -/
inductive NextLine where
  | line (l : Job.Line)
  | over
  | failed (e : Errno)

namespace LineSource

/-- Takes the next line of a stream. -/
def next (s : LineSource) : Job (NextLine × LineSource) :=
  Job.loop s fun s => do
    match s.lines with
    | l :: more => pure (.inr (.line ⟨l, true⟩, { s with lines := more }))
    | [] =>
      if s.isOver then pure (.inr (.over, s))
      else
        match ← Job.call (.read s.stream Job.chunkSize) with
        | .error e => pure (.inr (.failed e, { s with isOver := true, unfinished := [] }))
        | .ok [] =>
          let s' := { s with isOver := true, unfinished := [] }
          if s.unfinished = [] then pure (.inr (.over, s'))
          else pure (.inr (.line ⟨s.unfinished.reverse.flatten, false⟩, s'))
        | .ok chunk =>
          let (lines, unfinished) := Job.cutLines s.delimiter s.unfinished chunk
          pure (.inl { s with lines, unfinished })

end LineSource
end LineShell.Machine
