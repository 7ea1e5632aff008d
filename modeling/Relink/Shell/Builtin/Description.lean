import Relink.Shell.Program
import Relink.Shell.Token

namespace Relink.Shell.Builtin

/-- What a name stands for. -/
inductive Meaning where
  | keyword
  | shorthand (text : Chars)
  | function
  | builtin (isSpecial : Bool)
  | program (path : Chars) (isRemembered : Bool)
  deriving DecidableEq

namespace Meaning

/-- What is said of a name at length. -/
def description : Meaning → Chars
  | keyword => " is a shell keyword".toList
  | shorthand text => " is an alias for ".toList ++ text
  | function => " is a shell function".toList
  | builtin true => " is a special shell builtin".toList
  | builtin false => " is a shell builtin".toList
  | program path true => " is a tracked alias for ".toList ++ path
  | program path false => " is ".toList ++ path

def brief (name : Chars) : Meaning → Chars
  | shorthand text => "alias ".toList ++ name ++ '=' :: quoted text
  | program path _ => path
  | keyword | function | builtin _ => name

/-- What a name stands for. Programs may be looked for in the standard directories. -/
def find (standard : Bool) (text : Chars) : Activity (Option Meaning) := do
  let session ← get
  let name := String.ofList text
  if Token.keywords.contains name then return some .keyword
  match session.aliases.lookup name with
  | some value => return some (.shorthand value)
  | none =>
    if session.functions.contains name then return some .function
    if Builtin.isNamed name then return some (.builtin (Builtin.special.contains name))
    if text.contains '/' then
      let isThere := session.files.exists_ session.here (Chars.toString text)
      return if isThere then some (.program text false) else none
    match if standard then none else session.found.find? (·.name == name) with
    | some found => return some (.program found.path true)
    | none =>
      match ← Program.find standard text with
      | .ok path => return some (.program path false)
      | .error _ => return none

end Meaning

/-- Says what a name stands for, at length or in short. -/
def describe (isLong standard : Bool) (name : Chars) : Activity Nat := do
  match ← Meaning.find standard name with
  | some meaning =>
    Activity.print ((if isLong then name ++ meaning.description else meaning.brief name) ++ ['\n'])
    return 0
  | none =>
    if isLong then Activity.print (name ++ ": not found\n".toList)
    return Program.missing

def type : Builtin := fun names =>
  names.foldlM (fun status name => do return status ||| (← describe true false name)) 0

/-- Says what the first name stands for, if options ask for that. -/
def command : Builtin := fun arguments => do
  let (options, names) ← options [('p', false), ('v', false), ('V', false)] arguments
  let isAsked (letter : Char) : Bool := options.any (·.1 == letter)
  match names with
  | name :: _ =>
    if isAsked 'v' || isAsked 'V' then describe (isAsked 'V') (isAsked 'p') name else return 0
  | [] => return 0

/-- How many buckets the table of remembered programs has. -/
def foundBuckets : Nat := 31

/-- Lists remembered programs, or looks for programs anew. -/
def hash : Builtin := fun arguments => do
  let (options, names) ← options [('r', false)] arguments
  if !options.isEmpty then
    modify fun session => { session with found := [] }
    return 0
  else if names.isEmpty then
    let found := arranged foundBuckets Found.name (← get).found
    Activity.print (found.flatMap fun entry => entry.path ++ (if entry.stale then ['*', '\n'] else ['\n']))
    return 0
  else
    names.foldlM (fun status text => do
      let name := String.ofList text
      if (← get).functions.contains name || Builtin.isNamed name then return status
      Program.forget name
      match ← Program.find false text with
      | .ok _ => return status
      | .error cause =>
        Activity.complain (text ++ ": ".toList ++ Program.reason cause)
        return 1) 0

end Relink.Shell.Builtin
