namespace Relink.Shell

/-- What a finished command left: its exit status, -1 if a signal ended it, and the texts it printed. -/
structure Outcome where
  exitCode : Int
  stdout : String
  stderr : String
  deriving DecidableEq

namespace Outcome

def success (o : Outcome) : Bool :=
  o.exitCode == 0

/-- Both texts, on lines of their own if neither is empty. -/
def combined (o : Outcome) : String :=
  if o.stderr.isEmpty then o.stdout
  else if o.stdout.isEmpty then o.stderr
  else o.stdout ++ "\n" ++ o.stderr

end Outcome

end Relink.Shell
