import Relink.Shell.Utility.Basic

namespace Relink.Shell.Utility

/-- What a program is started with: whether the variables are forgotten before, those that are forgotten or set
one by one, the directory, what ends a line, and the program with its arguments. -/
structure Environment where
  isEmpty : Bool := false
  changes : List (String × Option Chars) := []
  directory : Option Chars := none
  ending : Char := '\n'
  command : List Chars := []

namespace Environment

def name : String := "env"

/-- The exit status if no program has been started. -/
def trouble : Nat := 125

def options : Options where
  letters := "i0v"
  valued := "uCS"
  names := [("ignore-environment", 'i'), ("null", '0'), ("unset", 'u'), ("chdir", 'C'), ("split-string", 'S'),
    ("debug", 'v')]
  mixed := false

/-- The directories of programs if no variable tells them. -/
def fallbackPath : Chars := "/bin:/usr/bin".toList

/-- The arguments in which the words of a text stand in its place, if an option asks for that. -/
def split : List Chars → List Chars
  | ['-', 'S'] :: text :: rest => words text ++ rest
  | ('-' :: 'S' :: text) :: rest => words text ++ rest
  | ('-' :: c :: letters) :: rest => ('-' :: c :: letters) :: split rest
  | arguments => arguments
where
  /-- The words of a text. -/
  words (text : Chars) : List Chars :=
    (text.splitOnP Char.isWhitespace).filter (!·.isEmpty)

/-- Reads variables up to the program. -/
def ofOperands (environment : Environment) : List Chars → Environment
  | [] => environment
  | text :: rest =>
    match text.dropWhile (· ≠ '=') with
    | [] => { environment with command := text :: rest }
    | _ :: value =>
      let key := Chars.toString (text.takeWhile (· ≠ '='))
      ofOperands { environment with changes := environment.changes ++ [(key, some value)] } rest

/-- Reads arguments. A dash alone has the variables forgotten. -/
def ofArguments (arguments : List Chars) : Except String Environment := do
  let given ← options.read (split arguments)
  let isDash := given.operands.head? = some ['-']
  let forgotten := given.flags.filterMap fun (letter, value) =>
    if letter == 'u' then some (Chars.toString value, none) else none
  let start : Environment := {
    isEmpty := given.has 'i' || isDash
    changes := forgotten
    directory := given.value? 'C'
    ending := if given.has '0' then '\x00' else '\n' }
  return start.ofOperands (if isDash then given.operands.drop 1 else given.operands)

def applyTo (environment : Environment) (session : Session) : Session :=
  let session := if environment.isEmpty then { session with bindings := ∅ } else session
  environment.changes.foldl (fun (session : Session) (key, value) =>
    match value with
    | some value => (session.assign key value).exportVariable key
    | none => { session with bindings := session.bindings.erase key }) session

/-- The condition in the directory, if it can be entered. -/
def enter (environment : Environment) (session : Session) : Except String Session :=
  match environment.directory with
  | none => .ok session
  | some path =>
    let problem (cause : SystemError) : String :=
      "cannot change directory to " ++ quoted path ++ ": " ++ cause.cause
    if environment.command.isEmpty then .error "must specify command with --chdir (-C)"
    else
      match session.files.find session.here (Chars.toString path) with
      | .ok (place, .directory) => .ok { session with here := place }
      | .ok _ => .error (problem Files.Tree.notDirectory)
      | .error cause => .error (problem cause)

def listing (environment : Environment) (session : Session) : Chars :=
  session.bindings.entries.flatMap fun (key, entry) =>
    match entry.value with
    | some value => Chars.ofString key ++ '=' :: value ++ [environment.ending]
    | none => []

def list (environment : Environment) (session : Session) : Session × Nat :=
  let session := print (environment.listing session) session
  if session.printed.isEmpty then (session, 0) else (complain lost session, trouble)

/-- Says why a program cannot be started. -/
def refuse (head : Chars) (cause : SystemError) (session : Session) : Session :=
  let session := complain (cited head ++ ": " ++ cause.cause) session
  if cause = .notFound && head.any Char.isWhitespace then
    complain "use -[v]S to pass options in shebang lines" session
  else session

end Environment

end Relink.Shell.Utility
