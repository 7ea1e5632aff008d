import Relink.Shell.Builtin.Leaving
import Relink.Shell.Builtin.Output
import Relink.Shell.Builtin.Place
import Relink.Shell.Builtin.Process
import Relink.Shell.Builtin.Variables

namespace Relink.Shell.Builtin

/-- The command of a name, if it neither runs nor looks for others. -/
def named? (name : String) : Option Builtin :=
  match name with
  | ":" | "true" => some (ending 0)
  | "false" => some (ending 1)
  | "echo" => some echo
  | "printf" => some printf
  | "test" => some (test false)
  | "[" => some (test true)
  | "exit" => some leaveShell
  | "return" => some leaveFunction
  | "break" => some (jump .leaveLoops)
  | "continue" => some (jump .nextTurn)
  | "set" => some set
  | "shift" => some shift
  | "unset" => some unset
  | "export" => some (declare "export" (·.exported) Session.exportVariable)
  | "readonly" => some (declare "readonly" (·.constant) Session.fixVariable)
  | "local" => some keep
  | "read" => some read
  | "getopts" => some getopts
  | "alias" => some defineAlias
  | "unalias" => some unalias
  | "cd" | "chdir" => some cd
  | "pwd" => some pwd
  | "umask" => some umask
  | "jobs" => some jobs
  | "fg" | "bg" => some resumeJobs
  | "wait" => some wait
  | "kill" => some kill
  | "trap" => some trap
  | "times" => some times
  | "ulimit" => some ulimit
  | _ => none

end Relink.Shell.Builtin
