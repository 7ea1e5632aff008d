import Relink.Shell.Builtin.Basic

namespace Relink.Shell.Builtin

def pathOf (place : Files.Place) : Chars :=
  Chars.ofString ("/" ++ "/".intercalate place)

def isDirectory (session : Session) (path : Chars) : Bool :=
  session.files.isDirectoryAt session.here (Chars.toString path)

/-- The path that steps lead to from a directory when links are not looked at: a step back takes the last step
away. Exactly two slashes at the beginning stay. -/
def logicalPath (directory path : Chars) : Chars :=
  let isAbsolute := path.head? = some '/'
  let start :=
    if isAbsolute then path
    else if directory.getLast? = some '/' then directory ++ path
    else directory ++ '/' :: path
  let isDouble := start.take 2 = ['/', '/'] && start[2]? ≠ some '/'
  let steps := (start.splitOn '/').foldl (fun (steps : List Chars) step =>
    if step.isEmpty || step = ['.'] then steps
    else if step = ['.', '.'] then steps.dropLast
    else steps ++ [step]) []
  (if isDouble then ['/', '/'] else ['/']) ++ ['/'].intercalate steps

/-- Whether the options ask for the path without links, or for the one with them, whichever comes last. -/
def isPhysical (options : List (Char × Chars)) : Bool :=
  options.getLast?.any (·.1 == 'P')

/-- The options of the commands about the directory. -/
def placeOptions : List (Char × Bool) :=
  [('L', false), ('P', false)]

/-- Goes to a directory, if it is one. -/
def enter (physical : Bool) (path : Chars) : Activity Bool := do
  let session ← get
  let logical := logicalPath session.directory path
  match session.files.find session.here (Chars.toString (if physical then path else logical)) with
  | .ok (place, .directory) =>
    let shown := if physical then pathOf place else logical
    Activity.assign "OLDPWD" session.directory
    modify (·.exportVariable "OLDPWD")
    modify fun session =>
      { session with
        here := place
        directory := shown
        found := session.found.map fun entry => { entry with stale := true } }
    Activity.assign "PWD" shown
    modify (·.exportVariable "PWD")
    return true
  | _ => return false

/-- The directories in which a relative path may lie. -/
def searched (session : Session) (path : Chars) : List Chars :=
  let first := path.takeWhile (· ≠ '/')
  if path.head? = some '/' || first = ['.'] || first = ['.', '.'] then []
  else (((session.valueOf? "CDPATH").map fun value => value.splitOn ':').getD [])

def cd : Builtin := fun arguments => do
  let (options, operands) ← options placeOptions arguments
  let session ← get
  let isBack := operands.head? = some ['-']
  let target :=
    match operands with
    | [] => (session.valueOf? "HOME").getD []
    | path :: _ => if isBack then (session.valueOf? "OLDPWD").getD [] else path
  let path := if target.isEmpty then ['.'] else target
  let among := (searched session path).map fun directory =>
    (!directory.isEmpty, if directory.isEmpty then path else directory ++ '/' :: path)
  let (isShown, path) := (among.find? fun entry => isDirectory session entry.2).getD (false, path)
  if !(← enter (isPhysical options) path) then Activity.fail ("can't cd to ".toList ++ target)
  if isBack || isShown then Activity.print ((← get).directory ++ ['\n'])
  return 0

def pwd : Builtin := fun arguments => do
  let (options, _) ← options placeOptions arguments
  let session ← get
  let path := if isPhysical options then pathOf session.here else session.directory
  Activity.print (path ++ ['\n'])
  return 0

/-- The marks of users, groups and others in a mask, with the letters for whom they are. -/
def classes : List (Char × Nat) :=
  [('u', 0o100), ('g', 0o010), ('o', 0o001)]

/-- The marks that may be given, by their letters. -/
def permissions : List (Char × Nat) :=
  [('r', 4), ('w', 2), ('x', 1)]

/-- The marks that one class has in a mask. -/
def marksOf (mask place : Nat) : Nat :=
  mask / place % 8

def allMarks : Nat := 0o777

def maskText (mask : Nat) : Chars :=
  let part (entry : Char × Nat) : Chars :=
    entry.1 :: '=' :: permissions.filterMap fun (letter, bit) =>
      if marksOf mask entry.2 / bit % 2 = 0 then some letter else none
  [','].intercalate (classes.map part) ++ ['\n']

/-- The marks that letters name, each class having some already. -/
def namedMarks (given : Nat) (letters : Chars) : Nat :=
  letters.foldl (fun marks letter =>
    let named :=
      match permissions.lookup letter, classes.lookup letter with
      | some bit, _ => bit
      | none, some place => marksOf given place
      | none, none => if letter == 'X' && given &&& 0o111 ≠ 0 then 1 else 0
    marks ||| named) 0

def everyone : Nat := 0o111

/-- Changes the marks that files get as clauses say, if they can be read. What follows a change without a comma is
about the same classes. -/
def changedMarks (given : Nat) : Nat → Nat → Nat → Chars → Option Nat
  | 0, _, _, _ => none
  | _ + 1, marks, _, [] => some marks
  | fuel + 1, marks, places, cs =>
    let whom := cs.takeWhile fun c => c == 'a' || (classes.lookup c).isSome
    let places := whom.foldl (fun places c => places ||| ((classes.lookup c).getD everyone)) places
    let places := if places = 0 then everyone else places
    match cs.drop whom.length with
    | [] => some marks
    | sign :: rest =>
      if sign == '=' || sign == '+' || sign == '-' then
        let letters := rest.takeWhile fun c => "rwxugoXs".toList.contains c
        let named := namedMarks given letters * places
        let kept (removed : Nat) : Nat := marks &&& (allMarks - removed)
        let marks :=
          if sign == '-' then kept named
          else if sign == '+' then marks ||| named
          else named ||| kept (places * 7)
        match rest.drop letters.length with
        | ',' :: rest => changedMarks given fuel marks 0 rest
        | rest => changedMarks given fuel marks places rest
      else none

/-- Shows or sets the marks that new files do not get. -/
def umask : Builtin := fun arguments => do
  let (options, operands) ← options [('S', false)] arguments
  let mask := (← get).mask
  match operands with
  | [] =>
    let digits := Nat.toDigits 8 mask
    let number := List.replicate (4 - digits.length) '0' ++ digits ++ ['\n']
    Activity.print (if options.isEmpty then number else maskText mask)
  | text :: _ =>
    if text.head?.any Char.isDigit then
      if text.all fun c => '0' ≤ c && c ≤ '7' then
        let n := text.foldl (fun n c => n * 8 + (c.toNat - '0'.toNat)) 0
        modify fun session => { session with mask := n % 512 }
      else Activity.failNumber text
    else
      match changedMarks (allMarks - mask) (text.length + 1) (allMarks - mask) 0 text with
      | some marks => modify fun session => { session with mask := allMarks - marks }
      | none => Activity.fail ("Illegal mode: ".toList ++ text)
  return 0

end Relink.Shell.Builtin
