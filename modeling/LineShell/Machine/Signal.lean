import LineShell.Text.Utf8

/-!
Signals: their numbers, the names by which they are called, and the words for what they do.
-/

namespace LineShell.Machine.Signal

/-- The signals that have names and words of their own, by their numbers. -/
def table : List (Nat × String × String) := [
  (1, "HUP", "Hangup"), (2, "INT", "Interrupt"), (3, "QUIT", "Quit"), (4, "ILL", "Illegal instruction"),
  (5, "TRAP", "Trace/breakpoint trap"), (6, "ABRT", "Aborted"), (7, "BUS", "Bus error"),
  (8, "FPE", "Floating point exception"), (9, "KILL", "Killed"), (10, "USR1", "User defined signal 1"),
  (11, "SEGV", "Segmentation fault"), (12, "USR2", "User defined signal 2"), (13, "PIPE", "Broken pipe"),
  (14, "ALRM", "Alarm clock"), (15, "TERM", "Terminated"), (16, "16", "Stack fault"),
  (17, "CHLD", "Child exited"), (18, "CONT", "Continued"), (19, "STOP", "Stopped (signal)"),
  (20, "TSTP", "Stopped"), (21, "TTIN", "Stopped (tty input)"), (22, "TTOU", "Stopped (tty output)"),
  (23, "URG", "Urgent I/O condition"), (24, "XCPU", "CPU time limit exceeded"),
  (25, "XFSZ", "File size limit exceeded"), (26, "VTALRM", "Virtual timer expired"),
  (27, "PROF", "Profiling timer expired"), (28, "WINCH", "Window changed"), (29, "IO", "I/O possible"),
  (30, "PWR", "Power failure"), (31, "SYS", "Bad system call")]

/-- The first signal that has no meaning of its own, and the last one. -/
def firstFree : Nat := 34
def last : Nat := 64

/-- The name of a signal; the end of a process counts as signal zero. -/
def name (signal : Nat) : String :=
  match table.lookup signal with
  | some (n, _) => n
  | none =>
    if signal = 0 then "EXIT"
    else if signal = firstFree then "RTMIN"
    else if signal = last then "RTMAX"
    else if firstFree < signal ∧ signal ≤ firstFree + 15 then s!"RTMIN+{signal - firstFree}"
    else if firstFree < signal ∧ signal < last then s!"RTMAX-{last - signal}"
    else s!"{signal}"

/-- The words for what a signal does. -/
def text (signal : Nat) : String :=
  match table.lookup signal with
  | some (_, t) => t
  | none => if firstFree ≤ signal then s!"Real-time signal {signal - firstFree}" else s!"Unknown signal {signal}"

/-- The names that differ in case only are the same. -/
def folded (s : String) : List Char := s.toList.map Char.toUpper

/-- The signal that a text names, by its number or its name. -/
def ofText? (least : Nat) (bs : Bytes) : Option Nat :=
  match Utf8.decode? bs with
  | none => none
  | some text =>
    match text.toNat? with
    | some n => if n ≤ last ∧ text.all Char.isDigit then some n else none
    | none => ((List.range (last + 1)).drop least).find? fun n => folded (name n) == folded text

end LineShell.Machine.Signal
