import Relink.Shell.Session
import Relink.Shell.Utility.Options
import Relink.Shell.Utility.Quoting

namespace Relink.Shell

/-- A program of the machine: given its arguments it works on files and pipes and leaves an exit status. -/
abbrev Utility := List Chars → Session → Session

namespace Utility

/-- Prints a message under the name of the program. -/
def complain (message : String) (session : Session) : Session :=
  session.write 2 (session.name ++ Chars.ofString (": " ++ message ++ "\n"))

def fail (message : String) (session : Session) : Session :=
  (complain message session).withStatus 1

def pointToHelp (status : Nat) (session : Session) : Session :=
  let name := Chars.toString session.name
  (session.write 2 (Chars.ofString ("Try '" ++ name ++ " --help' for more information.\n"))).withStatus status

/-- Prints a message that points to the help of the program, and fails. -/
def misuse (message : String) (session : Session) : Session :=
  pointToHelp 1 (complain message session)

/-- What an operation on a path met, with a short text before it. -/
def failOn (action : String) (path : Chars) (cause : SystemError) (session : Session) : Session :=
  fail (action ++ " " ++ quoted path ++ ": " ++ cause.cause) session

/-- Says why the file of a name cannot be used. -/
def failAt (name : Chars) (cause : SystemError) (session : Session) : Session :=
  fail (shown name ++ ": " ++ cause.cause) session

/-- Prints a text. What cannot be printed is kept to be complained of at the end. -/
def print (text : Chars) (session : Session) : Session :=
  if text.isEmpty then session
  else (session.write? 1 text).getD { session with printed := text :: session.printed }

def printLine (text : String) (session : Session) : Session :=
  print (Chars.ofString (text ++ "\n")) session

/-- What is said of a text that could not be printed. -/
def lost : String := "write error: Bad file descriptor"

/-- The program with some options that does what the arguments say. Its exit status is `trouble` if the arguments
cannot be read, or if not all could be printed. -/
def withOptions (options : Options) (trouble : Nat) (body : Given → Session → Session) : Utility :=
  fun arguments session =>
    match options.read arguments with
    | .error problem => pointToHelp trouble (complain problem session)
    | .ok given =>
      let session := body given (session.withStatus 0)
      if session.printed.isEmpty then session else (complain lost session).withStatus trouble

def each (step : Chars → Session → Session) (operands : List Chars) (session : Session) : Session :=
  operands.foldl (fun session operand => step operand session) session

/-- The operands, or a dash for the input if there are none. -/
def inputs (operands : List Chars) : List Chars :=
  if operands.isEmpty then [['-']] else operands

/-- Reads the file that an operand names; a dash names the input. -/
def content (operand : Chars) (session : Session) : Except SystemError Chars × Session :=
  if operand = ['-'] then
    match session.ahead? 0 with
    | some text => (.ok text, session.pass 0 text.length [])
    | none =>
      let isOpen := (session.descriptors.lookup 0).isSome
      (.error (if isOpen then Files.Tree.isDirectory else .numbered 9), session)
  else
    ((session.files.read session.here (Chars.toString operand)).map Chars.ofOctets, session)

def fileOf? (session : Session) (descriptor : Nat) : Option Files.Place :=
  match (session.descriptors.lookup descriptor).bind fun stream => session.world.streams[stream]? with
  | some stream =>
    match stream.channel with
    | .file place => some place
    | _ => none
  | none => none

def fullLines (text : Chars) : List Chars :=
  let lines := Chars.lines text
  if text.getLast? = some '\n' then lines.map (· ++ ['\n'])
  else lines.dropLast.map (· ++ ['\n']) ++ lines.getLast?.toList

end Utility

end Relink.Shell
