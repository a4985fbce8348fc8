import LineShell.Machine.Answering
import LineShell.Machine.Script.Start
import LineShell.Machine.Tools.Calculation
import LineShell.Machine.Tools.Cat
import LineShell.Machine.Tools.Condition
import LineShell.Machine.Tools.Contents
import LineShell.Machine.Tools.Counting
import LineShell.Machine.Tools.Cutting
import LineShell.Machine.Tools.Directories
import LineShell.Machine.Tools.Duplicating
import LineShell.Machine.Tools.Duration
import LineShell.Machine.Tools.Echo
import LineShell.Machine.Tools.Linking
import LineShell.Machine.Tools.Moving
import LineShell.Machine.Tools.Naming
import LineShell.Machine.Tools.Neighbours
import LineShell.Machine.Tools.Parts
import LineShell.Machine.Tools.Pasting
import LineShell.Machine.Tools.Permissions
import LineShell.Machine.Tools.Printf
import LineShell.Machine.Tools.Removing
import LineShell.Machine.Tools.Replacing
import LineShell.Machine.Tools.Reversing
import LineShell.Machine.Tools.Running
import LineShell.Machine.Tools.Searching
import LineShell.Machine.Tools.Sequence
import LineShell.Machine.Tools.Sorting
import LineShell.Machine.Tools.Spreading
import LineShell.Machine.Tools.Touching

/-!
The programs of a machine: what each of its tools does.
-/

namespace LineShell.Machine

/-- The work of a tool. -/
def Tool.job : Tool → Job Nat
  | .cat => Cat.run
  | .cp => Duplicating.run
  | .mv => Moving.run
  | .install => Duplicating.install
  | .mkdir => Directories.make
  | .rmdir => Directories.remove
  | .rm => Removing.run
  | .unlink => Removing.unlink
  | .touch => Touching.run
  | .truncate => Touching.resize
  | .chmod => Permissions.run
  | .ln => Linking.run
  | .link => Linking.link
  | .ls => Contents.onLines
  | .dir => Contents.inColumns
  | .basename => Naming.base
  | .cut => Cutting.run
  | .dirname => Naming.directory
  | .env => Running.withVariables
  | .expr => Calculation.run
  | .nice => Running.nicely
  | .nohup => Running.unnoticed
  | .printenv => Running.printVariables
  | .pwd => Naming.present
  | .readlink => Naming.link
  | .realpath => Naming.real
  | .sleep => Duration.run
  | .tac => Reversing.run
  | .tee => Spreading.run
  | .test => Condition.run
  | .timeout => Running.limited
  | .echo => Echo.run
  | .grep => Searching.run
  | .paste => Pasting.run
  | .sort => Sorting.run
  | .tr => Replacing.run
  | .uniq => Neighbours.run
  | .wc => Counting.run
  | .yes => Echo.repeatLine
  | .printf => Printf.run
  | .seq => Sequence.run
  | .head => Parts.head
  | .tail => Parts.tail
  | .falseTool => pure 1
  | _ => pure 0

/-- What a tool does when it is run with an environment. -/
def programs : Programs := fun e environment =>
  let how : Invoked := { name := e.name, args := e.args, environment, lineBuffered := e.tool == .wc }
  match e.tool with
  | .sh => Script.Start.program how
  | tool => Job.program tool.job how

end LineShell.Machine
