import Relink.Shell.Activity

/-! How a shell lives with signals and with other processes: what is done on signals and at the end, and parts
that work in processes of their own, waited for or in the background. -/

namespace Relink.Shell

namespace Process

/-- Does what is to be done on signals one after the other. The status stays, unless a function is left with one of
its own. Where something is left, the signals that remain wait. -/
def heedAll (perform : Chars → Activity Unit) (status : Nat) : List Nat → Activity Unit
  | [] => return ()
  | signal :: more => do
    match (← get).traps.lookup signal with
    | none => heedAll perform status more
    | some action =>
      match ← (perform action).outcome with
      | .ok () =>
        Activity.setStatus status
        heedAll perform status more
      | .error escape =>
        modify fun session => { session with pending := more ++ session.pending }
        if escape matches .leaveLoops _ | .nextTurn _ | .leaveFunction false then Activity.setStatus status
        throw escape

/-- Does what is to be done on the signals that have come, in the order of their numbers. -/
def heed (perform : Chars → Activity Unit) : Activity Unit := do
  Activity.receiveAll
  let session ← get
  if !session.pending.isEmpty then
    let status := session.statusBefore.getD session.status
    set { session with statusBefore := some status, pending := [] }
    match ← (heedAll perform status (session.pending.mergeSort (· ≤ ·))).outcome with
    | .error .fault => throw .fault
    | outcome =>
      modify fun after => { after with statusBefore := session.statusBefore }
      Activity.conclude outcome

/-- Carries out an activity as all that a process does. In the end it does what is to be done then, after which the
status is the one before unless that has left the shell itself. Where something is being done on a signal or at the
end, leaving a function without a status gives the one before as well. -/
def depart (perform : Chars → Activity Unit) (activity : Activity Unit) : StateM Session Ending := do
  match ← activity.run with
  | .error (.killed signal) => return .killed signal
  | result =>
    let before ← get
    let status := if result matches .error (.leaveFunction false) then before.statusBefore else none
    let session := before.withStatus (status.getD before.status)
    set session
    match session.traps.lookup 0 with
    | none => return .exited (session.status % 256)
    | some action =>
      set { session with
        traps := session.traps.filter (·.1 ≠ 0), loops := 0, statusBefore := some session.status }
      match ← (perform action).run with
      | .error (.killed signal) => return .killed signal
      | .error .fault | .error .leaveShell => return .exited ((← get).status % 256)
      | _ => return .exited (session.status % 256)

/-- Takes in what a process has left that was waited for. -/
def resume (branch : Session) : Activity Unit := do
  modify fun session => (session.resume branch).notice
  Activity.receiveAll

/-- Carries out an activity in a process of its own and waits for its end. -/
def apart (perform : Chars → Activity Unit) (activity : Activity Unit) : Activity Ending := do
  let (ending, branch) := depart perform activity (← get).branch
  resume branch
  return ending

/-- The exit status of a process that was waited for. A signal that has ended it is reported. -/
def report : Ending → Activity Nat
  | .exited status => return status
  | .killed signal => do
    if !Signal.quiet.contains signal then modify (·.write 2 ((Signal.notice signal).toList ++ ['\n']))
    return Signal.status signal

/-- The signals that a process in the background does not heed. -/
def unheeded : List Nat :=
  [2, 3]

/-- The condition for what works in the background. What other processes will write is left to the shell. -/
def behind (session : Session) : Session :=
  let place : Background := ⟨session.world.latestProcess + 1, session.world.pipes.size, session.world.clock⟩
  let branch := { session with world := { session.world with delayed := [] } }.branch
  { branch with
    background := place :: session.background
    ignored := unheeded ++ branch.ignored }.open_ 0 ⟨.sink, true, false, false, 0⟩

/-- Starts what works in the background. It is carried out at a clock of its own, and what it writes is
delayed. -/
def detach (work : StateM Session Ending) : Activity Unit := do
  let session := (← get).makeJob
  let branch := behind session
  let (ending, after) := work branch
  let resumed := session.resume after
  let job : Job := {
    number := session.freeJobNumber
    process := branch.process
    start := branch.world.clock
    ending := ending
    time := after.world.clock
    ignored := after.disregarded }
  set { resumed with
    world :=
      { resumed.world with
        clock := session.world.clock
        delayed := session.world.delayed ++ resumed.world.delayed }
    latest := some branch.process
    status := 0
    jobs := session.jobs ++ [job] }
  Activity.receiveAll

/-- Carries out a script inside of another one, unless that is too deep. -/
def deeper {α : Type} (activity : Activity α) : Activity α := do
  let session ← get
  if Session.depthLimit ≤ session.depth then throw (.killed 11)
  set { session with depth := session.depth + 1 }
  activity.andThen fun after => { after with depth := session.depth, reached := session.reached }

end Process

end Relink.Shell
