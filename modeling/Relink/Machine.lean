import Relink.Shell.Evaluation
import Relink.Shell.Outcome
import Relink.Text.Blank

/-! A machine that commands are run on. Its shell works on a tree of files, so that running a command is a
function of the tree. -/

namespace Relink

/-- A machine that commands are run on: its files, and the directory that commands start in. -/
structure Machine where
  files : Files.Tree
  here : Files.Place

namespace Machine

open Shell (Chars Outcome Session World)

def programPlace : Files.Place := ["usr", "bin"]

/-- The files that every machine has: the known programs, and the device that swallows what it is given. -/
def systemFiles : Files.Tree :=
  let directories : List (Files.Place × Files.Entry) :=
    [["dev"], ["etc"], ["root"], ["run"], ["sys"], ["tmp"], ["usr"], programPlace, ["usr", "sbin"]].map (·, .directory)
  let links : List (Files.Place × Files.Entry) :=
    [(["bin"], .link "usr/bin"), (["sbin"], .link "usr/sbin")]
  let programs := Shell.Program.names.map fun name => (programPlace ++ [name], Files.Entry.program name)
  ⟨directories ++ links ++ (["dev", "null"], .sink) :: programs⟩

/-- The number of the process that runs a command. -/
def firstProcess : Nat := 1000

/-- The fuel for a command; one that does not end within it is killed. -/
def fuel : Nat := 100000000

def commandSizeLimit : Nat := 131072

def pathOf (place : Files.Place) : String :=
  "/" ++ "/".intercalate place

def outputPipe : Nat := 0

def messagePipe : Nat := 1

/-- What the process of a command shares with others: its input is empty, and what it writes goes to two pipes. -/
def world (machine : Machine) : World where
  files := machine.files
  pipes := #[[], []]
  streams := #[
    ⟨.sink, true, false, false, 0⟩, ⟨.pipe outputPipe, false, true, false, 0⟩,
    ⟨.pipe messagePipe, false, true, false, 0⟩]
  latestProcess := firstProcess

/-- The condition in which a command starts. -/
def session (machine : Machine) : Session where
  world := machine.world
  here := machine.here
  directory := Chars.ofString (pathOf machine.here)
  name := Shell.Program.shellPath.toList
  shell := firstProcess
  process := firstProcess
  waiting := [firstProcess - 1]
  bindings := Table.ofList [
    ("HOME", ⟨some "/root".toList, true, false⟩),
    (Session.pathVariable, ⟨some Session.standardPath, true, false⟩),
    ("PWD", ⟨some (Chars.ofString (pathOf machine.here)), true, false⟩)]
  descriptors := [(0, 0), (1, 1), (2, 2)]

def refusal? (machine : Machine) (command : String) : Option SystemError :=
  if '\x00' ∈ command.toList then some (.described "nul byte found in provided data")
  else if commandSizeLimit ≤ command.utf8ByteSize then some (.numbered 7)
  else
    match machine.files.find machine.here Shell.Program.shellPath with
    | .ok (_, entry) => if entry.isExecutable then none else some (.numbered 13)
    | .error cause => some cause

/-- What a shell that has ended leaves: its status unless a signal killed it, and the two texts without the
blanks around them. -/
def outcome (ending : Shell.Ending) (world : World) : Outcome where
  exitCode :=
    match ending with
    | .exited status => status
    | .killed _ => -1
  stdout := Text.trim (Chars.toString (world.pipeText outputPipe))
  stderr := Text.trim (Chars.toString (world.pipeText messagePipe))

/-- Runs a command to its end, and all that it has started in the background. -/
def run (machine : Machine) (command : String) : Except SystemError Outcome × Machine :=
  match machine.refusal? command with
  | some cause => (.error cause, machine)
  | none =>
    let arguments := ["-c".toList, Chars.ofString command]
    let (ending, session) := Shell.Evaluation.shell fuel arguments machine.session
    let world := session.world.settle
    (.ok (outcome ending world), { machine with files := world.files })

end Machine

end Relink
