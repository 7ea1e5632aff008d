import Relink.Shell.Builtin.Name
import Relink.Shell.Command.Reader
import Relink.Shell.Expansion

namespace Relink.Shell

/-- The fields of a command as far as its words have been expanded: those already looked at, those ahead, and the
words left. -/
structure CommandLine where
  passed : List Chars := []
  ahead : List Chars := []
  words : List Word

/-- What is known of the command of a line: the command of the shell that has been found, whether the first one
that was named is special, whether functions count, and whether the standard directories are asked for. -/
structure CommandLine.Resolution where
  line : CommandLine
  builtin : Option String := none
  isSpecial : Option Bool := none
  skipsFunctions : Bool := false
  standard : Bool := false

namespace CommandLine

/-- The command that runs others and takes options of its own. -/
def runner : String := "command"

/-- Expands words until there is a field ahead. -/
def fill (capture : Command → Activity Chars) : List Word → Activity (List Chars × List Word)
  | [] => return ([], [])
  | word :: words => do
    match ← Expansion.fieldsOfWord capture word with
    | [] => fill capture words
    | fields => return (fields, words)

def look (capture : Command → Activity Chars) (line : CommandLine) : Activity CommandLine := do
  if line.ahead.isEmpty then
    let (ahead, words) ← fill capture line.words
    return { line with ahead := ahead, words := words }
  else return line

def pass (line : CommandLine) : CommandLine :=
  { line with passed := line.passed ++ line.ahead.take 1, ahead := line.ahead.drop 1 }

/-- Goes back to where so many fields had been passed. -/
def backTo (line : CommandLine) (count : Nat) : CommandLine :=
  { line with passed := line.passed.take count, ahead := line.passed.drop count ++ line.ahead }

/-- Passes the options of the runner. Gives whether they ask for the standard directories, if they leave a command to
be run. -/
def passOptions (capture : Command → Activity Chars) :
    Nat → Bool → CommandLine → Activity (Option Bool × CommandLine)
  | 0, _, line => return (none, line)
  | fuel + 1, standard, line => do
    let line ← line.look capture
    match line.ahead with
    | [] => return (none, line)
    | ['-', '-'] :: _ =>
      let line ← line.pass.look capture
      return (if line.ahead.isEmpty then none else some standard, line)
    | ('-' :: c :: letters) :: _ =>
      if (c :: letters).all (· == 'p') then passOptions capture fuel true line.pass else return (none, line)
    | _ => return (some standard, line)

/-- Finds out what carries the command ahead out. -/
def resolveFrom (capture : Command → Activity Chars) : Nat → Resolution → Activity Resolution
  | 0, resolution => return resolution
  | fuel + 1, resolution => do
    let line ← resolution.line.look capture
    let resolution := { resolution with line := line, builtin := none }
    match line.ahead with
    | [] => return resolution
    | head :: _ =>
      let name := String.ofList head
      let isFunction := !resolution.skipsFunctions && (← get).functions.contains name
      if isFunction || !Builtin.isNamed name || Builtin.late.contains name then return resolution
      else
        let isSpecial := resolution.isSpecial.getD (Builtin.special.contains name)
        let resolution := { resolution with builtin := some name, isSpecial := some isSpecial }
        if name ≠ runner then return resolution
        else
          match ← passOptions capture fuel resolution.standard line.pass with
          | (some standard, after) =>
            resolveFrom capture fuel { resolution with line := after, skipsFunctions := true, standard := standard }
          | (none, after) => return { resolution with line := after.backTo line.passed.length }

/-- Expands an argument. That of a declaration is not split if it is an assignment. -/
def argument (capture : Command → Activity Chars) (declares : Bool) (word : Word) : Activity (List Chars) := do
  match if declares then Reader.assignment? word else none with
  | some (name, value) => return [Chars.ofString name ++ '=' :: (← Expansion.assigned capture value)]
  | none => Expansion.fieldsOfWord capture word

/-- Expands the words of a command and finds out what carries it out. The fields ahead begin with its name. -/
def resolve (capture : Command → Activity Chars) (fuel : Nat) (words : List Word) : Activity Resolution := do
  let resolution ← resolveFrom capture fuel { line := { words := words } }
  let declares := resolution.builtin.any (Builtin.declaring.contains ·)
  let more ← resolution.line.words.mapM (argument capture declares)
  let line := { resolution.line with ahead := resolution.line.ahead ++ more.flatten, words := [] }
  return { resolution with line := line }

namespace Resolution

def fields (resolution : Resolution) : List Chars :=
  resolution.line.passed ++ resolution.line.ahead

def leavesOnFault (resolution : Resolution) : Bool :=
  resolution.isSpecial.getD false

/-- Whether the assignments before the command are for its time only. -/
def keepsVariables (resolution : Resolution) : Bool :=
  !resolution.fields.isEmpty && !resolution.leavesOnFault

def replacesShell (resolution : Resolution) : Bool :=
  resolution.builtin = some "exec"

end Resolution

end CommandLine

end Relink.Shell
