import Relink.Files.Tree
import Relink.Shell.Chars

namespace Relink.Shell

/-- What a stream leads to. -/
inductive Channel where
  | pipe (number : Nat)
  | file (place : Files.Place)
  | directory
  | sink
  deriving DecidableEq

/-- An open stream, which several descriptors may lead to. A file is read and written from the position on,
unless all that is written goes to its end. -/
structure Stream where
  channel : Channel
  readable : Bool
  writable : Bool
  appends : Bool := false
  position : Nat := 0

/-- A text that a process in the background will write to a pipe at a later time. -/
structure Delayed where
  time : Nat
  process : Nat
  pipe : Nat
  text : Chars

/-- A signal on its way to a process: when it was sent, and to which process. -/
structure Sent where
  time : Nat
  process : Nat
  signal : Nat

/-- What processes share. Pipes hold what was written last first; the clock counts millionths of a second. -/
structure World where
  files : Files.Tree
  pipes : Array (List Chars) := #[]
  streams : Array Stream := #[]
  latestProcess : Nat
  clock : Nat := 0
  delayed : List Delayed := []
  signals : List Sent := []

namespace World

def addPipe (world : World) (text : Chars) : Nat × World :=
  (world.pipes.size, { world with pipes := world.pipes.push [text] })

def addStream (world : World) (stream : Stream) : Nat × World :=
  (world.streams.size, { world with streams := world.streams.push stream })

/-- Makes a stream from which a text can be read. -/
def addText (world : World) (text : Chars) : Nat × World :=
  let (number, world) := world.addPipe text
  world.addStream ⟨.pipe number, true, false, false, 0⟩

def pipeText (world : World) (number : Nat) : Chars :=
  ((world.pipes[number]?).getD []).reverse.flatten

def addToPipe (world : World) (number : Nat) (text : Chars) : World :=
  { world with pipes := world.pipes.modify number (text :: ·) }

/-- A content with some octets put in from a position on. -/
def overwritten (content : Text.Octets) (position : Nat) (octets : Text.Octets) : Text.Octets :=
  content.take position ++ List.replicate (position - content.length) 0 ++ octets ++
    content.drop (position + octets.length)

def write (world : World) (index : Nat) (text : Chars) : Option World :=
  match world.streams[index]? with
  | none => none
  | some stream =>
    if !stream.writable then none
    else
      match stream.channel with
      | .pipe number => some (world.addToPipe number text)
      | .file place =>
        match world.files.at? place with
        | some (.file content executable) =>
          let start := if stream.appends then content.length else stream.position
          let octets := Chars.toOctets text
          let files := world.files.put place (.file (overwritten content start octets) executable)
          let streams := world.streams.modify index ({ · with position := start + octets.length })
          some { world with files := files, streams := streams }
        | _ => some world
      | .directory => none
      | .sink => some world

/-- What can be read from a stream, if it can be read. -/
def ahead? (world : World) (index : Nat) : Option Chars :=
  match world.streams[index]? with
  | none => none
  | some stream =>
    if !stream.readable then none
    else
      match stream.channel with
      | .pipe number => some (world.pipeText number)
      | .file place =>
        match world.files.at? place with
        | some (.file content _) => some (Chars.ofOctets (content.drop stream.position))
        | _ => some []
      | .directory => none
      | .sink => some []

/-- Passes what has been read from a stream, given what is left. -/
def pass (world : World) (index count : Nat) (rest : Chars) : World :=
  match world.streams[index]? with
  | some ⟨.pipe number, _, _, _, _⟩ => { world with pipes := world.pipes.modify number fun _ => [rest] }
  | some ⟨.file _, _, _, _, _⟩ =>
    { world with
      streams := world.streams.modify index fun stream => { stream with position := stream.position + count } }
  | _ => world

/-- Moves the clock on; what processes in the background have written by then is written. -/
def wait (world : World) (time : Nat) : World :=
  let time := max world.clock time
  let due := (world.delayed.filter (·.time ≤ time)).mergeSort fun a b => a.time ≤ b.time
  let written := due.foldl (fun (world : World) text => world.addToPipe text.pipe text.text) world
  { written with clock := time, delayed := world.delayed.filter (time < ·.time) }

/-- How long it takes until a new process is at work. -/
def latency : Nat := 500

/-- Lets all that processes in the background do come to its end. -/
def settle (world : World) : World :=
  world.wait (world.delayed.foldl (fun time text => max time text.time) world.clock)

/-- Waits until a pipe gets no more, and gives what it holds. -/
def drain (world : World) (number : Nat) : Chars × World :=
  let writers := world.delayed.filter (·.pipe = number)
  let world := world.wait (writers.foldl (fun time text => max time text.time) world.clock)
  (world.pipeText number, world)

/-- Forgets the pipes and streams made since there were so many. -/
def reduce (world : World) (pipes streams : Nat) : World :=
  { world with
    pipes := world.pipes.take pipes
    streams := world.streams.take streams
    delayed := world.delayed.filter (·.pipe < pipes) }

/-- Takes back what a process would have written after now. -/
def silence (world : World) (process : Nat) : World :=
  { world with delayed := world.delayed.filter (·.process ≠ process) }

def send (world : World) (process signal : Nat) : World :=
  { world with signals := world.signals ++ [⟨world.clock, process, signal⟩] }

end World

end Relink.Shell
