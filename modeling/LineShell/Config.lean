import LineShell.Command.Parse

/-!
The settings of a session: the prompt, the bounds on a line, and the directory of the log file.
-/

namespace LineShell

/-- The settings of a session. -/
structure Config where
  prompt : String := "mysh> "
  limits : Limits := {}
  logDirectory : Path
  deriving DecidableEq, Repr

end LineShell
