import Relink.Shell.Expansion

namespace Relink.Shell

namespace Redirection

/-- What is to be done with a descriptor when the words of a redirection are expanded: a file is opened, the
stream of another descriptor is taken or none, or a text of the script is given. -/
inductive Prepared where
  | file (mode : Redirect.Mode) (path : Chars)
  | duplicate (source : Option Nat)
  | document (word : Word)

/-- Expands the word of a redirection. The texts of the script are expanded when they are given. -/
def prepare (capture : Command → Activity Chars) : Redirect → Activity (Nat × Prepared)
  | .mk descriptor mode word => do
    match mode with
    | .text => return (descriptor, .document word)
    | .duplicate =>
      let text ← Expansion.text capture word
      if text = ['-'] then return (descriptor, .duplicate none)
      else
        match (Chars.toNat? text).filter fun n => n < 10 && text.length = 1 with
        | some source => return (descriptor, .duplicate (some source))
        | none =>
          modify fun session => { session with line := session.reached }
          Activity.fail "Syntax error: Bad fd number".toList
    | mode => return (descriptor, .file mode (← Expansion.text capture word))

/-- Why a file cannot be opened. -/
def cause (missing : String) (cause : SystemError) : Chars :=
  (if cause = .notFound || cause = Files.Tree.notDirectory then missing else cause.cause).toList

def fileExists : SystemError := .numbered 17

/-- Number of the error that a program is being run. -/
def textBusy : SystemError := .numbered 26

def descriptorOf? (path : Chars) : Option Nat :=
  match String.ofList path with
  | "/dev/stdin" => some 0
  | "/dev/stdout" => some 1
  | "/dev/stderr" => some 2
  | _ => if "/dev/fd/".toList.isPrefixOf path then Chars.toNat? (path.drop 8) else none

def openInput (descriptor : Nat) (path : Chars) : Activity Unit := do
  let session ← get
  match session.files.find session.here (Chars.toString path) with
  | .ok (place, .file ..) => set (session.open_ descriptor ⟨.file place, true, false, false, 0⟩)
  | .ok (_, .directory) => set (session.open_ descriptor ⟨.directory, true, false, false, 0⟩)
  | .ok _ => set (session.open_ descriptor ⟨.sink, true, false, false, 0⟩)
  | .error reason =>
    Activity.fail ("cannot open ".toList ++ path ++ ": ".toList ++ cause "No such file" reason)

def openOutput (mode : Redirect.Mode) (descriptor : Nat) (path : Chars) : Activity Unit := do
  let session ← get
  let refuse (reason : SystemError) : Activity Unit :=
    Activity.fail ("cannot create ".toList ++ path ++ ": ".toList ++ cause "Directory nonexistent" reason)
  let create (place : Files.Place) (content : Text.Octets) (executable : Bool) : Activity Unit :=
    let written := session.withFiles (session.files.put place (.file content executable))
    set (written.open_ descriptor ⟨.file place, mode == .readWrite, true, mode == .append, 0⟩)
  match session.files.resolve true session.here (Chars.toString path) with
  | .ok (.free place) => create place [] false
  | .ok (.found place (.file content executable)) =>
    if mode == .write && session.has .noclobber then refuse fileExists
    else create place (if mode == .append || mode == .readWrite then content else []) executable
  | .ok (.found _ .sink) => set (session.open_ descriptor ⟨.sink, true, true, false, 0⟩)
  | .ok (.found _ .directory) => refuse Files.Tree.isDirectory
  | .ok (.found ..) => refuse textBusy
  | .error reason => refuse reason

/-- Gives a descriptor the stream of another. -/
def duplicate (descriptor source : Nat) : Activity Unit := do
  if source ≠ descriptor then
    match (← get).descriptors.lookup source with
    | some stream => modify (·.connect descriptor stream)
    | none => Activity.fail (Chars.ofNat source ++ ": Bad file descriptor".toList)

/-- Carries out a redirection whose words are expanded. -/
def apply (capture : Command → Activity Chars) : Nat × Prepared → Activity Unit
  | (descriptor, .document word) => do
    let text ← Expansion.document capture word
    modify (·.openText descriptor text)
  | (descriptor, .duplicate none) => modify (·.disconnect descriptor)
  | (descriptor, .duplicate (some source)) => duplicate descriptor source
  | (descriptor, .file mode path) =>
    match descriptorOf? path with
    | some source => duplicate descriptor source
    | none => if mode == .read then openInput descriptor path else openOutput mode descriptor path

def applyAll (capture : Command → Activity Chars) (prepared : List (Nat × Prepared)) : Activity Unit :=
  prepared.forM (apply capture)

/-- Carries out redirections for the time of an activity, or for good if they are to stay after it, and gives
whether that could be done. A fault of a redirection leaves the activity undone. -/
def during (capture : Command → Activity Chars) (stay : Bool) (prepared : List (Nat × Prepared))
    (activity : Activity Unit) : Activity Bool := do
  let before := (← get).descriptors
  let restore (session : Session) : Session := session.restoreDescriptors before (prepared.map Prod.fst)
  match ← (applyAll capture prepared).outcome with
  | .ok () =>
    let outcome ← activity.outcome
    if !(stay && outcome matches .ok _) then modify restore
    Activity.conclude outcome
    return true
  | .error escape =>
    modify restore
    match escape with
    | .fault => return false
    | escape => throw escape

end Redirection

end Relink.Shell
