import Relink.Shell.Builtin.Basic

namespace Relink.Shell.Builtin

/-- The order of jobs: the latest one first. -/
def ordered (jobs : List Job) : List Job :=
  jobs.mergeSort fun a b => b.process ≤ a.process

def failJob {α : Type} (name : Option Chars) (before after : String) : Activity α :=
  Activity.fail (before.toList ++ name.getD "(null)".toList ++ after.toList)

/-- The job that a name means; none means the latest. -/
def job (name : Option Chars) (controlled : Bool) : Activity Job := do
  let jobs := ordered (← get).jobs
  let current := jobs.head?
  let found ←
    match name with
    | none =>
      match current with
      | some job => pure job
      | none => Activity.fail "No current job".toList
    | some ('%' :: rest) =>
      if rest.isEmpty || rest = ['+'] || rest = ['%'] then
        match current with
        | some job => pure job
        | none => Activity.fail "No current job".toList
      else if rest = ['-'] then
        match jobs[1]? with
        | some job => pure job
        | none => Activity.fail "No previous job".toList
      else
        match Chars.toNat? rest with
        | some number =>
          match jobs.find? (·.number = number) with
          | some job => pure job
          | none => failJob name "No such job: " ""
        | none => failJob name "No such job: " ""
    | some _ => failJob name "No such job: " ""
  if controlled then failJob name "job " " not created under job control"
  return found

def forgetJob (process : Nat) : Activity Unit :=
  modify fun session => { session with jobs := session.jobs.filter (·.process ≠ process) }

def stateText (session : Session) (job : Job) : Chars :=
  if session.isRunning job then "Running".toList
  else
    match job.ending with
    | .exited 0 => "Done".toList
    | .exited status => "Done(".toList ++ Chars.ofNat status ++ [')']
    | .killed signal => (Signal.notice signal).toList

/-- The column in which the text of a job begins, which is empty. -/
def jobColumn : Nat := 33

def jobText (session : Session) (withProcess : Bool) (mark : Char) (job : Job) : Chars :=
  let head := '[' :: Chars.ofNat job.number ++ [']', ' ', mark, ' '] ++
    (if withProcess then Chars.ofNat job.process ++ [' '] else []) ++ stateText session job
  head ++ List.replicate (max 1 (jobColumn - head.length)) ' ' ++ ['\n']

/-- Lists jobs. Those that have ended are forgotten. -/
def jobs : Builtin := fun arguments => do
  let (options, names) ← options [('l', false), ('p', false)] arguments
  let session ← get
  let all := ordered session.jobs
  let chosen ← if names.isEmpty then pure all else names.mapM fun name => job (some name) false
  chosen.forM fun (listed : Job) => do
    let mark :=
      if all[0]?.any (·.process = listed.process) then '+'
      else if all[1]?.any (·.process = listed.process) then '-' else ' '
    if options.getLast?.any (·.1 == 'p') then Activity.print (Chars.ofNat listed.process ++ ['\n'])
    else
      Activity.print (jobText session (options.any (·.1 == 'l')) mark listed)
      if !session.isRunning listed then forgetJob listed.process
  return 0

/-- Puts jobs to the fore or background, which takes control over them. -/
def resumeJobs : Builtin := fun arguments => do
  let names ← operands arguments
  let _ ← job names.head? true
  return 0

/-- Waits up to a time, or up to a signal on which something is to be done. Gives the signal. Each step receives
those of a time, so that as many steps as there are signals are enough. -/
def waitUntil (time : Nat) : Nat → Activity (Option Nat)
  | 0 => do
    modify fun session => { session with world := session.world.wait time }
    return none
  | steps + 1 => do
    let session ← get
    let own := session.world.signals.filter fun sent => sent.process = session.process && sent.time ≤ time
    match (own.map (·.time)).min? with
    | none => waitUntil time 0
    | some next =>
      MonadState.set { session with world := session.world.wait next }
      Activity.receiveAll
      match (← get).pending with
      | signal :: _ => return some signal
      | [] => waitUntil time steps

/-- Waits up to a time. Gives the exit status if a signal has cut that short. -/
def pause (time : Nat) : Activity (Option Nat) := do
  let session ← get
  return (← waitUntil time session.world.signals.length).map Signal.status

/-- Waits for a job and gives its status. A signal that has ended it is reported once. -/
def await (awaited : Job) : Activity Nat := do
  match ← pause awaited.time with
  | some status => return status
  | none =>
    modify fun session =>
      { session with
        jobs := session.jobs.map fun job =>
          if job.process = awaited.process then { job with awaited := true, reported := true } else job }
    match awaited.ending with
    | .exited status => return status
    | .killed signal =>
      if !awaited.reported && !Signal.quiet.contains signal then
        modify (·.write 2 ((Signal.notice signal).toList ++ ['\n']))
      return Signal.status signal

/-- Waits for what runs in the background. -/
def wait : Builtin := fun arguments => do
  match ← operands arguments with
  | [] =>
    let session ← get
    match ← pause (session.jobs.foldl (fun time job => max time job.time) session.world.clock) with
    | some status => return status
    | none =>
      modify fun session =>
        { session with jobs := session.jobs.map ({ · with awaited := true, reported := true }) }
      return 0
  | names =>
    names.foldlM (fun _ name => do
      if name.head? = some '%' then await (← job (some name) false)
      else
        let process ← Activity.count name
        match (← get).jobs.find? (·.process = process) with
        | some awaited => await awaited
        | none => return 127) 127

def killUsage : Chars :=
  "Usage: kill [-s sigspec | -signum | -sigspec] [pid | job]... or\nkill -l [exitstatus]".toList

/-- The first process of the machine, which is always there. -/
def firstProcess : Nat := 1

/-- Sends a signal to a process of which the shell knows. Gives whether there is one. -/
def send (signal process : Nat) : Activity Bool := do
  let session ← get
  match session.jobs.find? (·.process = process) with
  | some job =>
    let isWardedOff := job.start ≤ session.world.clock && job.ignored.contains signal
    let isHeeded := !Signal.harmless.contains signal && (Signal.inescapable.contains signal || !isWardedOff)
    if session.isRunning job && isHeeded then
      MonadState.set { session with
        world := session.world.silence process
        jobs := session.jobs.map fun other =>
          if other.process = process then { other with ending := .killed signal, time := session.world.clock }
          else other }
    return true
  | none =>
    if process = session.process then
      Activity.receive signal
      return true
    else if session.waiting.contains process then
      MonadState.set { session with world := session.world.send process signal }
      return true
    else return process = firstProcess && signal = 0

def sendAll (signal : Nat) (targets : List Chars) : Activity Nat :=
  targets.foldlM (fun status target => do
    let process ←
      match target with
      | '%' :: _ => do
        let _ ← job (some target) false
        pure none
      | '-' :: digits => do
        let _ ← Activity.count digits
        pure none
      | digits => some <$> Activity.count digits
    let known ←
      match process with
      | some 0 => do
        (← get).waiting.forM fun process => do let _ ← send signal process
        send signal (← get).process
      | some process => send signal process
      | none => pure false
    if known then return status
    else
      Activity.complain "No such process\n".toList
      return 1) 0

def nameSignals : List Chars → Activity Nat
  | [] => do
    Activity.print ("0\n".toList ++
      (Signal.names.drop 1).flatMap fun entry => entry.2.toList ++ ['\n'])
    return 0
  | text :: _ => do
    let number ← Activity.count text
    let signal := if Signal.status 0 < number then number - Signal.status 0 else number
    match if signal = 0 then none else Signal.nameOf? signal with
    | some name =>
      Activity.print (name.toList ++ ['\n'])
      return 0
    | none => Activity.fail ("invalid signal number or exit status: ".toList ++ text)

def terminate : Nat := 15

def kill : Builtin := fun arguments => do
  let known : Option (Nat × List Chars) :=
    match arguments with
    | ('-' :: name) :: targets => (Signal.number? 1 name).map fun signal => (signal, targets)
    | _ => none
  match known with
  | some (_, []) => Activity.fail killUsage
  | some (signal, targets) => sendAll signal targets
  | none =>
    let (options, targets) ← options [('l', false), ('s', true)] arguments
    let named := options.filter (·.1 == 's')
    let signals ← named.mapM fun entry =>
      match Signal.number? 1 entry.2 with
      | some signal => pure signal
      | none => Activity.fail ("invalid signal number or name: ".toList ++ entry.2)
    if options.any (·.1 == 'l') then
      if signals.isEmpty then nameSignals targets else Activity.fail killUsage
    else if targets.isEmpty then Activity.fail killUsage
    else sendAll (signals.getLast?.getD terminate) targets

/-- Says what shall be done on a signal, or that nothing special shall be. -/
def setTrap (signal : Nat) (action : Option Chars) : Activity Unit :=
  modify fun session =>
    let others := session.traps.filter (·.1 ≠ signal)
    { session with
      traps :=
        match action with
        | some action => (others ++ [(signal, action)]).mergeSort fun a b => a.1 ≤ b.1
        | none => others }

/-- Says what shall be done on signals, or when the shell is left. -/
def trap : Builtin := fun arguments => do
  match ← operands arguments with
  | [] =>
    let traps := (← get).traps
    Activity.print (traps.flatMap fun (signal, action) =>
      "trap -- ".toList ++ quoted action ++ [' '] ++ ((Signal.nameOf? signal).getD "").toList ++ ['\n'])
    return 0
  | first :: rest =>
    let isReset := rest.isEmpty || (Signal.written? first).isSome
    let names := if isReset then first :: rest else rest
    let action := if isReset || first = ['-'] then none else some first
    setAll action names
where
  /-- Sets the traps of signals up to one that there is not. -/
  setAll (action : Option Chars) : List Chars → Activity Nat
    | [] => return 0
    | name :: rest =>
      match Signal.number? 0 name with
      | none => do
        modify (·.write 2 ("trap: ".toList ++ name ++ ": bad trap\n".toList))
        return 1
      | some signal => do
        setTrap signal action
        setAll action rest

/-- The times that a shell and its programs have used, if no time passes. -/
def times : Builtin := fun _ => do
  let line := "0m0.000000s 0m0.000000s\n".toList
  Activity.print (line ++ line)
  return 0

/-- The limits that processes have, by their letters: what they are called and what they begin as. -/
def limits : List (Char × String × String) := [
  ('t', "time(seconds)", "unlimited"), ('f', "file(blocks)", "unlimited"), ('d', "data(kbytes)", "unlimited"),
  ('s', "stack(kbytes)", "8192"), ('c', "coredump(blocks)", "0"), ('m', "memory(kbytes)", "unlimited"),
  ('l', "locked memory(kbytes)", "8192"), ('p', "process", "unlimited"), ('n', "nofiles", "1024"),
  ('v', "vmemory(kbytes)", "unlimited"), ('w', "locks", "unlimited"), ('r', "rtprio", "0")]

def limitText (session : Session) (letter : Char) : Chars :=
  (session.limits.lookup letter).getD
    (((limits.lookup letter).map fun entry => entry.2.toList).getD "unlimited".toList)

def limitListing (session : Session) : Chars :=
  limits.flatMap fun (letter, name, _) =>
    name.toList ++ List.replicate (20 - name.length) ' ' ++ ' ' :: limitText session letter ++ ['\n']

def ulimit : Builtin := fun arguments => do
  let letters := limits.map fun entry => (entry.1, false)
  let (options, operands) ← options ([('H', false), ('S', false), ('a', false)] ++ letters) arguments
  let isAll := options.any (·.1 == 'a')
  let letter := ((options.filter fun entry => (limits.lookup entry.1).isSome).getLast?.map Prod.fst).getD 'f'
  let session ← get
  match operands with
  | [] => Activity.print (if isAll then limitListing session else limitText session letter ++ ['\n'])
  | [value] =>
    if isAll then Activity.fail "too many arguments".toList
    let value ←
      if value = "unlimited".toList then pure value
      else if value.all Char.isDigit then pure (Chars.ofNat ((Chars.toNat? value).getD 0))
      else Activity.fail "bad number".toList
    modify fun session => { session with limits := (letter, value) :: session.limits }
  | _ => Activity.fail "too many arguments".toList
  return 0

end Relink.Shell.Builtin
