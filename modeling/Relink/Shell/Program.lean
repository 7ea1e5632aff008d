import Relink.Shell.Activity
import Relink.Shell.Builtin
import Relink.Shell.Utility
import Relink.Shell.Utility.Environment

namespace Relink.Shell

/-- A program that can be started: its path and what is there. -/
structure Program where
  path : Chars
  entry : Files.Entry

namespace Program

/-- The exit status of a program that is not there. -/
def missing : Nat := 127

/-- The exit status of what cannot be run. -/
def notRunnable : Nat := 126

def denied : SystemError := .numbered 13

/-- Whether an error only says that there is nothing. -/
def isAbsence (cause : SystemError) : Bool :=
  cause = .notFound || cause = Files.Tree.notDirectory

/-- What is said of a program that cannot be started. -/
def reason (cause : SystemError) : Chars :=
  (if isAbsence cause then "not found" else cause.cause).toList

def status (cause : SystemError) : Nat :=
  if isAbsence cause || cause = Files.Tree.nameTooLong || cause = Files.Tree.tooManyLinks then missing
  else notRunnable

def atPath (session : Session) (path : Chars) : Except SystemError Program :=
  match session.files.find session.here (Chars.toString path) with
  | .ok (_, entry) => if entry.isExecutable then .ok ⟨path, entry⟩ else .error denied
  | .error cause => .error cause

/-- The first program at some paths. Of the obstacles that are more than absence the last counts. -/
def firstAt (session : Session) : SystemError → List Chars → Except SystemError Program
  | cause, [] => .error cause
  | cause, path :: more =>
    match atPath session path with
    | .ok program => .ok program
    | .error other => firstAt session (if isAbsence other then cause else other) more

def directories (session : Session) : Option Chars :=
  session.valueOf? Session.pathVariable

def candidates (directories : Option Chars) (name : Chars) : List Chars :=
  ((directories.map (·.splitOn ':')).getD []).map fun directory =>
    if directory.isEmpty then name else directory ++ '/' :: name

/-- The program of a name. One with a slash is a path; where a path of the name is remembered, those before it do
not count. -/
def named (session : Session) (standard : Bool) (name : Chars) : Except SystemError Program :=
  if name.contains '/' then atPath session name
  else
    let paths := candidates (if standard then some Session.standardPath else directories session) name
    match if standard then none else session.found.find? (·.name == String.ofList name) with
    | some found => firstAt session .notFound (paths.dropWhile (· ≠ found.path))
    | none => firstAt session .notFound paths

def remember (name : String) (path : Chars) : Activity Unit :=
  modify fun session =>
    let isNamed (found : Found) : Bool := found.name == name
    { session with
      found :=
        if session.found.any isNamed then
          session.found.map fun found => if isNamed found then ⟨name, path, false⟩ else found
        else session.found ++ [⟨name, path, false⟩] }

def forget (name : String) : Activity Unit :=
  modify fun session => { session with found := session.found.filter (·.name ≠ name) }

/-- The path of a name, which is remembered. A remembered one that is absolute stays when the directory
changes. -/
def find (standard : Bool) (text : Chars) : Activity (Except SystemError Chars) := do
  let session ← get
  let name := String.ofList text
  if text.contains '/' then return .ok text
  if standard then return (named session true text).map (·.path)
  let search : Activity (Except SystemError Chars) := do
    match firstAt session .notFound (candidates (directories session) text) with
    | .ok program =>
      remember name program.path
      return .ok program.path
    | .error cause =>
      forget name
      return .error cause
  match session.found.find? (·.name == name) with
  | some found =>
    if !found.stale || found.path.head? = some '/' then
      remember name found.path
      return .ok found.path
    else search
  | none => search

/-- The interpreter that the first line of a file names, with what it is given before the file. -/
def interpreter? (content : Text.Octets) : Option (Chars × List Chars) :=
  match Chars.ofOctets (content.take 256) with
  | '#' :: '!' :: rest =>
    let isBlank (c : Char) : Bool := c == ' ' || c == '\t'
    let line := (rest.takeWhile (· ≠ '\n')).dropWhile isBlank
    let path := line.takeWhile (!isBlank ·)
    let argument := ((line.drop path.length).dropWhile isBlank).reverse.dropWhile isBlank |>.reverse
    some (path, if argument.isEmpty then [] else [argument])
  | _ => none

def shellName : String := "sh"

def shellPath : String := "/bin/sh"

/-- The program that starts others with other variables. -/
def environmentName : String := Utility.Environment.name

/-- The programs that do the same as commands of the shell. -/
def likeBuiltins : List String :=
  ["true", "false", "printf", "test", "[", "pwd", "kill"]

/-- A command of the shell as a program, which prints messages under its name. -/
def ofBuiltin (builtin : Builtin) : Utility := fun arguments session =>
  let (outcome, session) := (do
    let status ← builtin arguments
    let printed ← Activity.flush
    return if printed then status else 1 : Activity Nat) session
  match outcome with
  | .ok status => session.withStatus status
  | .error _ => session

/-- What a known program does, if it starts no others. -/
def known? (name : String) : Option Utility :=
  match Utility.named? name with
  | some utility => some utility
  | none => if likeBuiltins.contains name then (Builtin.named? name).map ofBuiltin else none

def names : List String :=
  [shellName, environmentName] ++ likeBuiltins ++ Utility.names

end Program

end Relink.Shell
