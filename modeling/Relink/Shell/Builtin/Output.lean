import Relink.Shell.Builtin.Basic
import Relink.Shell.Condition
import Relink.Shell.Format

namespace Relink.Shell.Builtin

/-- Does nothing and gives a status. -/
def ending (status : Nat) : Builtin := fun _ => return status

def echo : Builtin := fun arguments => do
  Activity.print (Format.echo arguments)
  return 0

def printf : Builtin := fun arguments => do
  match ← operands arguments with
  | [] => Activity.fail Format.Problem.usage.message
  | format :: values =>
    let (text, problems) := Format.printed format values
    Activity.print text
    problems.forM fun problem =>
      if problem.isFinal then Activity.fail problem.message
      else Activity.complain problem.message
    return if problems.isEmpty then 0 else 1

/-- Decides a condition, which for one of the two names stands in brackets. -/
def test (bracketed : Bool) : Builtin := fun arguments => do
  if bracketed && arguments.getLast? ≠ some [']'] then Activity.fail Condition.Problem.bracket.message
  let session ← get
  match Condition.holds session.files session.here (if bracketed then arguments.dropLast else arguments) with
  | .ok holds => return if holds then 0 else 1
  | .error problem => Activity.fail problem.message

end Relink.Shell.Builtin
