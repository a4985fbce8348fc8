import LineShell.Machine.State

/-!
The files that every machine has: the tools, a few devices, the streams of the process that looks at them, a
directory for what is passing, and one in which nothing can be created.
-/

namespace LineShell.Machine

/-- The tools and the names that they are called by. -/
def toolNames : List (String × Tool) := [
  ("[", .test), ("base64", .base64), ("basename", .basename), ("cat", .cat), ("chmod", .chmod),
  ("comm", .comm), ("cp", .cp), ("cut", .cut), ("dash", .sh), ("dd", .dd), ("dir", .dir),
  ("dirname", .dirname), ("echo", .echo), ("env", .env), ("expand", .expand), ("expr", .expr),
  ("factor", .factor), ("false", .falseTool), ("fold", .fold), ("grep", .grep), ("head", .head),
  ("id", .id), ("install", .install), ("join", .join), ("link", .link), ("ln", .ln), ("ls", .ls),
  ("mkdir", .mkdir), ("mv", .mv), ("nice", .nice), ("nl", .nl), ("nohup", .nohup),
  ("nproc", .nproc), ("od", .od), ("paste", .paste), ("printenv", .printenv), ("printf", .printf),
  ("pwd", .pwd), ("readlink", .readlink), ("realpath", .realpath), ("rm", .rm), ("rmdir", .rmdir),
  ("seq", .seq), ("sh", .sh), ("sleep", .sleep), ("sort", .sort), ("split", .split),
  ("stat", .stat), ("sum", .sum), ("sync", .sync), ("tac", .tac), ("tail", .tail), ("tee", .tee),
  ("test", .test), ("timeout", .timeout), ("touch", .touch), ("tr", .tr), ("true", .trueTool),
  ("truncate", .truncate), ("tsort", .tsort), ("tty", .tty), ("uname", .uname),
  ("unexpand", .unexpand), ("uniq", .uniq), ("unlink", .unlink), ("wc", .wc),
  ("whoami", .whoami), ("yes", .yes)]

/-- The location that names lead to. -/
def locationOf (names : List String) : Location := names.map Utf8.encode

/-- The names of the streams of a process. -/
def streamNames : List (String × Nat) :=
  ["0", "1", "2", "3", "4", "5", "6", "7", "8", "9"].zipIdx

/-- Scripts that stand beside the tools: they call one of them with an option. -/
def scripts : List (String × String) :=
  [("egrep", "#!/bin/sh\ncmd=$\x7b0##*/\x7d\nexec grep -E \"$@\"\n"),
    ("fgrep", "#!/bin/sh\ncmd=$\x7b0##*/\x7d\nexec grep -F \"$@\"\n")]

/-- The entries that every machine has. In those of the system nothing can be created. -/
def standardEntries : List (Location × Node) :=
  let system (names : List String) : Location × Node := (locationOf names, .directory systemMode false)
  let shut (names : List String) : Location × Node := (locationOf names, .directory systemMode true)
  let link (names : List String) (target : String) : Location × Node :=
    (locationOf names, .link (Utf8.encode target))
  [ system ["usr"], system ["usr", "bin"], link ["bin"] "usr/bin",
    (locationOf ["tmp"], .directory 0o1777 false),
    shut ["proc"], shut ["proc", "self"], shut ["proc", "self", "fd"],
    system ["dev"],
    (locationOf ["dev", "null"], .device .null),
    (locationOf ["dev", "zero"], .device .zero),
    (locationOf ["dev", "full"], .device .full),
    link ["dev", "stdin"] "/proc/self/fd/0",
    link ["dev", "stdout"] "/proc/self/fd/1",
    link ["dev", "stderr"] "/proc/self/fd/2",
    link ["dev", "fd"] "/proc/self/fd"] ++
    (streamNames.map fun (name, n) => (locationOf ["proc", "self", "fd", name], .stream n)) ++
    toolNames.map fun (name, tool) => (locationOf ["usr", "bin", name], .tool tool)

/-- The files that every machine has. -/
def standardTree : FileTree :=
  scripts.foldl (fun t (name, text) =>
    t.setFile (locationOf ["usr", "bin", name]) { mode := 0o755, data := Utf8.encode text })
    { entries := standardEntries }

/-- The environment that programs find. -/
def standardEnvironment : Environment :=
  [("PATH", "/usr/bin:/bin"), ("LC_ALL", "C")].map fun v => (Utf8.encode v.1, Utf8.encode v.2)

end LineShell.Machine
