import Relink.Shell.Builtin.Basic

namespace Relink.Shell.Builtin

/-- Leaves the shell. Without a status of its own it is left with that of the last command; what is done on a
signal or at the end counts as none. -/
def leaveShell : Builtin := fun arguments => do
  let session ← get
  let status ←
    match arguments with
    | [] => pure (session.statusBefore.getD session.status)
    | text :: _ => Activity.count text
  Activity.setStatus status
  throw .leaveShell

def leaveFunction : Builtin := fun arguments => do
  match arguments with
  | [] => throw (.leaveFunction false)
  | text :: _ =>
    Activity.setStatus (← Activity.count text)
    throw (.leaveFunction true)

/-- Leaves loops or begins their next turn, as many as said but at most those that there are. -/
def jump (escape : Nat → Escape) : Builtin := fun arguments => do
  let asked ←
    match arguments with
    | [] => pure 1
    | text :: _ =>
      let asked ← Activity.count text
      if asked = 0 then Activity.failNumber text
      pure asked
  let count := min asked (← get).loops
  if count = 0 then return 0
  Activity.setStatus 0
  throw (escape count)

end Relink.Shell.Builtin
