import Relink.Shell.Chars

namespace Relink.Shell.Builtin

/-- The commands after whose misuse the shell is left, and which no function can take the place of. -/
def special : List String :=
  [":", ".", "break", "continue", "eval", "exec", "exit", "export", "local", "readonly", "return", "set", "shift",
    "times", "trap", "unset"]

/-- The commands whose arguments may be assignments, which are not split into fields. -/
def declaring : List String :=
  ["export", "readonly", "local", "alias"]

/-- The other commands that the shell carries out itself. -/
def regular : List String :=
  ["[", "alias", "bg", "cd", "chdir", "command", "echo", "false", "fg", "getopts", "hash", "jobs", "kill", "printf",
    "pwd", "read", "test", "true", "type", "ulimit", "umask", "unalias", "wait"]

/-- The commands that are looked for only when the assignments before them have been made. -/
def late : List String :=
  ["[", "echo", "hash", "printf", "pwd", "test", "type"]

/-- Whether the shell carries a command out itself. -/
def isNamed (name : String) : Bool :=
  special.contains name || regular.contains name

end Relink.Shell.Builtin
