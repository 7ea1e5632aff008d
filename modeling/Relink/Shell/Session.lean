import Relink.Shell.Command
import Relink.Shell.Switch
import Relink.Shell.World
import Relink.Table

namespace Relink.Shell

/-- A variable; one that is only marked has no value. -/
structure Variable where
  value : Option Chars
  exported : Bool
  constant : Bool
  deriving DecidableEq

/-- How a process has ended: with a status or by a signal. -/
inductive Ending where
  | exited (status : Nat)
  | killed (signal : Nat)
  deriving DecidableEq

/-- A command in the background: its number among those of the shell, its process, when that begins, how and when
it ends, the signals that it does not heed once it is at work, whether it has been waited for, and whether a
signal that has ended it needs no further report. -/
structure Job where
  number : Nat
  process : Nat
  start : Nat
  ending : Ending
  time : Nat
  ignored : List Nat
  awaited : Bool := false
  reported : Bool := false

/-- The place of a shell in the background: its process, and how many pipes there were and what time it was
when it began. -/
structure Background where
  process : Nat
  pipes : Nat
  time : Nat

/-- What a function or command takes back in the end: a variable, or all switches. -/
inductive Kept where
  | variable (name : String) (old : Option Variable)
  | switches (on : List Switch)

/-- A program that has been found in a directory for programs, and whether it has to be looked for anew. -/
structure Found where
  name : String
  path : Chars
  stale : Bool

/-- The condition of a shell that is at work. Besides the line of the command at work it knows the line that has been
reached in the script, and that in the script of the shell itself. -/
structure Session where
  world : World
  here : Files.Place
  directory : Chars
  name : Chars
  shell : Nat
  process : Nat
  waiting : List Nat := []
  background : List Background := []
  caller : Option Chars := none
  line : Nat := 1
  reached : Nat := 1
  base : Nat := 1
  arguments : List Chars := []
  optionIndex : Nat := 1
  optionOffset : Option Nat := none
  bindings : Table Variable := ∅
  functions : Table Command := ∅
  aliases : List (String × Chars) := []
  found : List Found := []
  traps : List (Nat × Chars) := []
  ignored : List Nat := []
  pending : List Nat := []
  kept : List (List Kept) := []
  status : Nat := 0
  outputStatus : Nat := 0
  statusBefore : Option Nat := none
  latest : Option Nat := none
  jobs : List Job := []
  descriptors : List (Nat × Nat) := []
  printed : List Chars := []
  loops : Nat := 0
  depth : Nat := 0
  calls : Nat := 0
  mask : Nat := 0o22
  limits : List (Char × Chars) := []
  switches : List Switch := []
  tracing : Bool := false

namespace Session

/-- How deep scripts may be carried out inside of one another before the memory is exhausted. -/
def depthLimit : Nat := 2500

/-- How deep functions may call one another. -/
def callLimit : Nat := 1000

def has (session : Session) (switch : Switch) : Bool :=
  session.switches.contains switch

def files (session : Session) : Files.Tree :=
  session.world.files

def withFiles (session : Session) (files : Files.Tree) : Session :=
  { session with world := { session.world with files := files } }

def withStatus (session : Session) (status : Nat) : Session :=
  { session with status := status }

def connect (session : Session) (descriptor stream : Nat) : Session :=
  { session with
    descriptors := (descriptor, stream) :: session.descriptors.filter (·.1 ≠ descriptor) }

def disconnect (session : Session) (descriptor : Nat) : Session :=
  { session with descriptors := session.descriptors.filter (·.1 ≠ descriptor) }

def open_ (session : Session) (descriptor : Nat) (stream : Stream) : Session :=
  let (index, world) := session.world.addStream stream
  { session with world := world }.connect descriptor index

def openText (session : Session) (descriptor : Nat) (text : Chars) : Session :=
  let (index, world) := session.world.addText text
  { session with world := world }.connect descriptor index

/-- Puts some descriptors back to what they were. -/
def restoreDescriptors (session : Session) (before : List (Nat × Nat)) (changed : List Nat) : Session :=
  changed.foldl (fun session descriptor =>
    match before.lookup descriptor with
    | some stream => session.connect descriptor stream
    | none => session.disconnect descriptor) session

/-- The text that a shell in the background writes later, if a stream leads to a pipe from outside. -/
def delayed? (session : Session) (stream : Nat) (text : Chars) : Option Delayed := do
  let innermost ← session.background.head?
  match (← session.world.streams[stream]?).channel with
  | .pipe number =>
    let isOutside (background : Background) : Bool :=
      number < background.pipes && background.time < session.world.clock
    if session.background.any isOutside then some ⟨session.world.clock, innermost.process, number, text⟩ else none
  | _ => none

def writeTo? (session : Session) (stream : Nat) (text : Chars) : Option Session := do
  match session.delayed? stream text with
  | some delayed =>
    some { session with world := { session.world with delayed := session.world.delayed ++ [delayed] } }
  | none => return { session with world := ← session.world.write stream text }

def write? (session : Session) (descriptor : Nat) (text : Chars) : Option Session := do
  session.writeTo? (← session.descriptors.lookup descriptor) text

/-- Writes to a descriptor; what cannot be written is lost. -/
def write (session : Session) (descriptor : Nat) (text : Chars) : Session :=
  (session.write? descriptor text).getD session

/-- What can be read from a descriptor, if it can be read. -/
def ahead? (session : Session) (descriptor : Nat) : Option Chars := do
  session.world.ahead? (← session.descriptors.lookup descriptor)

/-- Passes what has been read from a descriptor, given what is left. -/
def pass (session : Session) (descriptor count : Nat) (rest : Chars) : Session :=
  match session.descriptors.lookup descriptor with
  | some stream => { session with world := session.world.pass stream count rest }
  | none => session

def readAll (session : Session) (descriptor : Nat) : Chars × Session :=
  match session.ahead? descriptor with
  | some text => (text, session.pass descriptor text.length [])
  | none => ([], session)

/-- Takes a line from a descriptor, without its end, and whether there was an end. -/
def readLine (session : Session) (descriptor : Nat) : Chars × Bool × Session :=
  match session.ahead? descriptor with
  | some text =>
    let line := text.takeWhile (· ≠ '\n')
    match text.drop line.length with
    | [] => (line, false, session.pass descriptor line.length [])
    | _ :: rest => (line, true, session.pass descriptor (line.length + 1) rest)
  | none => ([], false, session)

def valueOf? (session : Session) (name : String) : Option Chars :=
  (session.bindings.get? name).bind (·.value)

/-- Whether a variable keeps its value. -/
def isConstant (session : Session) (name : String) : Bool :=
  ((session.bindings.get? name).map (·.constant)).getD false

/-- Changes a variable, which begins as one without a value. -/
def alter (session : Session) (name : String) (change : Variable → Variable) : Session :=
  let old := (session.bindings.get? name).getD ⟨none, false, false⟩
  { session with bindings := session.bindings.insert name (change old) }

/-- Gives a variable a value; its marks stay. -/
def assign (session : Session) (name : String) (value : Chars) : Session :=
  let marked := session.has .allexport
  session.alter name fun old => { old with value := some value, exported := old.exported || marked }

/-- Marks a variable for the programs that are run. -/
def exportVariable (session : Session) (name : String) : Session :=
  session.alter name ({ · with exported := true })

def fixVariable (session : Session) (name : String) : Session :=
  session.alter name ({ · with constant := true })

/-- Notes what a variable is, so that it is put back when the function or command ends. -/
def keep (session : Session) (kept : Kept) : Session :=
  match session.kept with
  | [] => session
  | frame :: outer => { session with kept := (kept :: frame) :: outer }

/-- A variable that tells from which argument on options are looked for. -/
def optionVariable : String := "OPTIND"

def pathVariable : String := "PATH"

/-- The directories in which programs are looked for if nothing else is said. -/
def standardPath : Chars :=
  "/usr/local/sbin:/usr/local/bin:/usr/sbin:/usr/bin:/sbin:/bin".toList

/-- Heeds that a variable has got a value: programs are looked for anew, or options. -/
def heed (session : Session) (name : String) (value : Option Chars) : Session :=
  if name = pathVariable then { session with found := [] }
  else if name = optionVariable then
    { session with
      optionIndex := max 1 ((value.bind Chars.toNat?).getD 1)
      optionOffset := none }
  else session

/-- Takes back what has been noted beyond so many outer commands, the latest first. -/
def unwind (session : Session) (outer : Nat) : Session :=
  let inner := session.kept.length - outer
  let restored := (session.kept.take inner).flatten.foldl (fun (session : Session) kept =>
    match kept with
    | .variable name (some old) => { session with bindings := session.bindings.insert name old }.heed name old.value
    | .variable name none => { session with bindings := session.bindings.erase name }.heed name none
    | .switches on => { session with switches := on }) session
  { restored with kept := session.kept.drop inner }

/-- The value of a parameter that is a single text. -/
def parameter? (session : Session) (name : String) : Option Chars :=
  match name with
  | "#" => some (Chars.ofNat session.arguments.length)
  | "?" => some (Chars.ofNat session.status)
  | "$" => some (Chars.ofNat session.shell)
  | "!" => session.latest.map Chars.ofNat
  | "-" => some (Switch.letters session.switches)
  | name =>
    match Chars.toNat? name.toList with
    | some 0 => some session.name
    | some position => session.arguments[position - 1]?
    | none => session.valueOf? name

/-- Whether something is to be done on a signal or at the end. -/
def hasTraps (session : Session) : Bool :=
  session.traps.any fun entry => !entry.2.isEmpty

/-- The signals that a process started by the shell does not heed. -/
def disregarded (session : Session) : List Nat :=
  (session.traps.filterMap fun entry => if entry.2.isEmpty then some entry.1 else none) ++ session.ignored

/-- The condition for a part of the shell that works in a process of its own. -/
def branch (session : Session) : Session :=
  let process := session.world.latestProcess + 1
  let world := session.world.wait (session.world.clock + World.latency)
  { session with
    world := { world with latestProcess := process, signals := [] }
    reached := session.base
    process := process
    waiting := session.process :: session.waiting
    traps := session.traps.filter fun entry => entry.2.isEmpty
    pending := []
    jobs := []
    printed := [] }

/-- The condition after a part that worked in a process of its own: what it did to the world lasts, the rest
does not. Signals that it sent are still to be received. -/
def resume (session branch : Session) : Session :=
  { session with
    world :=
      { branch.world.reduce session.world.pipes.size session.world.streams.size with
        signals := session.world.signals ++ branch.world.signals } }

/-- The condition with an empty pipe for the output, and the number of the pipe. -/
def withOutput (session : Session) : Nat × Session :=
  let (number, world) := session.world.addPipe []
  (number, { session with world := world }.open_ 1 ⟨.pipe number, false, true, false, 0⟩)

/-- The condition of a program that the shell starts: it gets the marked variables. -/
def child (session : Session) (name : Chars) (arguments : List Chars) : Session :=
  let branch := session.branch
  { world := branch.world
    here := session.here
    directory := session.directory
    name := name
    shell := branch.process
    process := branch.process
    waiting := branch.waiting
    background := session.background
    arguments := arguments
    bindings := Table.ofList ((session.bindings.entries.filter fun entry => entry.2.exported).map fun entry =>
      (entry.1, { entry.2 with constant := false }))
    ignored := session.disregarded
    descriptors := session.descriptors
    depth := session.depth + 1
    mask := session.mask
    limits := session.limits }

def isRunning (session : Session) (job : Job) : Bool :=
  session.world.clock < job.time

def freeJobNumber (session : Session) : Nat :=
  let used := session.jobs.map (·.number)
  ((List.range (used.length + 1)).map (· + 1)).find? (!used.contains ·) |>.getD 1

/-- Makes room for a new job: if none is free before it, the first one that has been waited for is forgotten. -/
def makeJob (session : Session) : Session :=
  let awaited := (session.jobs.filter (·.awaited)).map (·.number)
  match awaited.min? with
  | some number =>
    if number < session.freeJobNumber then
      { session with jobs := session.jobs.filter (·.number ≠ number) }
    else session
  | none => session

/-- The condition after a command that has been waited for: jobs that have ended meanwhile are noticed. -/
def notice (session : Session) : Session :=
  { session with
    jobs := session.jobs.map fun job => if session.isRunning job then job else { job with reported := true } }

end Session

end Relink.Shell
