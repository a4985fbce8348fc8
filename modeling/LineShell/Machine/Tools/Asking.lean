import LineShell.Machine.Tools.Job

/-!
Questions that a program puts before it does something. They are written to the error output and answered by
lines of the input; what begins with the letter for yes agrees.
-/

namespace LineShell.Machine.Job

/-- How much of the answers is read at a time. -/
def answerSize : Nat := 4096

/-- The next line of the answers, without what ends it. -/
def nextAnswer : Job Bytes :=
  loop () fun _ => do
    let s ← get
    if s.answers.contains Lines.newline then
      let line := s.answers.takeWhile (· ≠ Lines.newline)
      set { s with answers := s.answers.drop (line.length + 1) }
      pure (.inr line)
    else
      match ← call (.read input answerSize) with
      | .ok (b :: bs) =>
        set { s with answers := s.answers ++ b :: bs }
        pure (.inl ())
      | _ =>
        set { s with answers := [] }
        pure (.inr s.answers)

/-- The answer agrees. -/
def isYes (answer : Bytes) : Bool := answer.head? == some 0x79 || answer.head? == some 0x59

/-- Puts a question, with the name of the program in front, and waits for the answer. -/
def isConfirmed (question : Bytes) : Job Bool := do
  writeError ((← name) ++ Utf8.encode ": " ++ question)
  pure (isYes (← nextAnswer))

end LineShell.Machine.Job
