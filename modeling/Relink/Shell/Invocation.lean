import Relink.Shell.Builtin.Variables

namespace Relink.Shell

/-- The arguments of a shell after its options, and whether the first one is the script itself. -/
structure Invocation where
  givesScript : Bool
  operands : List Chars

namespace Invocation

/-- Turns the switches of some letters. Gives whether the script follows, and how many of the texts after the
letters have named switches. -/
def letters (state : Bool) (following : List Chars) : Bool → Nat → Chars → Activity (Bool × Nat)
  | givesScript, taken, [] => return (givesScript, taken)
  | _, taken, 'c' :: rest => letters state following true taken rest
  | givesScript, taken, 'l' :: rest => letters state following givesScript taken rest
  | givesScript, taken, 'o' :: rest => do
    Builtin.turnNamed state following[taken]?
    letters state following givesScript (if taken < following.length then taken + 1 else taken) rest
  | givesScript, taken, letter :: rest => do
    Builtin.turnLetter state letter
    letters state following givesScript taken rest

/-- Reads the options, at most as many as there are arguments. -/
def options : Nat → Bool → List Chars → Activity Invocation
  | 0, givesScript, arguments => return ⟨givesScript, arguments⟩
  | fuel + 1, givesScript, arguments => do
    match arguments with
    | ['-'] :: rest | ['-', '-'] :: rest => return ⟨givesScript, rest⟩
    | (sign :: text) :: rest =>
      if sign == '-' || sign == '+' then
        let (givesScript, taken) ← letters (sign == '-') rest givesScript 0 text
        options fuel givesScript (rest.drop taken)
      else return ⟨givesScript, arguments⟩
    | arguments => return ⟨givesScript, arguments⟩

/-- Reads the arguments of a shell. Without a script and operands it reads its input. -/
def ofArguments (arguments : List Chars) : Activity Invocation := do
  let invocation ← options arguments.length false arguments
  if invocation.operands.isEmpty then
    if invocation.givesScript then Activity.fail "-c requires an argument".toList
    Builtin.turnLetter true 's'
  return invocation

/-- The variables that every shell has, with the values that they begin with. -/
def ownVariables (session : Session) : List (String × Chars) := [
  ("IFS", [' ', '\t', '\n']),
  (Session.optionVariable, ['1']),
  ("PPID", Chars.ofNat (session.waiting.headD 0)),
  ("PWD", session.directory)]

/-- The variables that a shell has unless it has been given them. -/
def defaults : List (String × Chars) := [
  (Session.pathVariable, Session.standardPath),
  ("PS1", "# ".toList),
  ("PS2", "> ".toList),
  ("PS4", "+ ".toList)]

/-- The condition of a shell that begins. -/
def opened (session : Session) : Session :=
  let missing := defaults.filter fun entry => (session.valueOf? entry.1).isNone
  let session := (ownVariables session ++ missing).foldl (fun session entry => session.assign entry.1 entry.2) session
  { session with line := 0 }

end Invocation

end Relink.Shell
