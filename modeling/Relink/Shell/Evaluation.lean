import Relink.Shell.Builtin.Description
import Relink.Shell.CommandLine
import Relink.Shell.Invocation
import Relink.Shell.Process
import Relink.Shell.Redirection

/-! Carrying out commands. The functions are defined by recursion on fuel, and a shell that has spent it is
killed. A part of the shell in a process of its own is the same evaluation, of which only the shared world
stays. -/

namespace Relink.Shell

/-- How a command is carried out: whether its status is looked at, so that a failure does not leave the shell, and
whether it is the last that its process does. -/
structure Mode where
  looked : Bool := false
  last : Bool := false

namespace Evaluation

/-- Where a script comes from: it is a text, it is a file that is read in between, or it is what the shell itself
reads. -/
inductive Origin where
  | text
  | file
  | own
  deriving DecidableEq

/-- The end of what has spent its fuel: the process is killed. -/
def spent {α : Type} : Activity α :=
  throw (.killed 9)

/-- Leaves the shell after a command that failed, if that is asked for and nothing looks at the status. -/
def check (mode : Mode) : Activity Unit := do
  let session ← get
  if session.has .errexit && !mode.looked && session.status ≠ 0 then throw .leaveShell

/-- Carries out a command that can fail; leaving a function with a status counts. -/
def checked (mode : Mode) (activity : Activity Unit) : Activity Unit := do
  let outcome ← activity.outcome
  if outcome matches .ok () | .error (.leaveFunction _) then check mode
  Activity.conclude outcome

/-- What becomes of a loop after a part of a turn. -/
inductive Turn where
  | done
  | next
  | finished

/-- Carries out a part of a turn of a loop. Of loops to be left this is the first. -/
def turn (activity : Activity Unit) : Activity Turn := do
  match ← activity.outcome with
  | .ok () => return .done
  | .error (.nextTurn count) => if count ≤ 1 then return .next else throw (.nextTurn (count - 1))
  | .error (.leaveLoops count) => if count ≤ 1 then return .finished else throw (.leaveLoops (count - 1))
  | .error escape => throw escape

/-- Sets a status when the condition of a loop leaves more than the loop, unless a function is left with a status of
its own. -/
def keepingStatus (status : Nat) (activity : Activity Turn) : Activity Turn := do
  match ← activity.outcome with
  | .ok turn => return turn
  | .error escape =>
    if escape matches .leaveLoops _ | .nextTurn _ | .leaveFunction false then Activity.setStatus status
    throw escape

/-- Carries out an activity as a loop, which can be left. A fault leaves it as well. -/
def asLoop (activity : Activity Unit) : Activity Unit := do
  modify fun session => { session with loops := session.loops + 1 }
  let outcome ← activity.outcome
  if !(outcome matches .error .fault) then modify fun session => { session with loops := session.loops - 1 }
  Activity.conclude outcome

/-- Carries out an activity as a command, which takes back the variables that it keeps unless the shell is left. -/
def asCommand (keeps : Bool) (activity : Activity Unit) : Activity Unit := do
  let outer := (← get).kept
  if keeps then modify ({ · with kept := [] :: outer })
  let outcome ← activity.outcome
  if !(outcome matches .error .fault | .error .leaveShell | .error (.killed _)) then modify (·.unwind outer.length)
  Activity.conclude outcome

/-- The path of a script. Without a slash it is looked for in the directories of programs. -/
def scriptPath (path : Chars) : Activity Chars := do
  if path.contains '/' then return path
  let session ← get
  let isFile (path : Chars) : Bool :=
    match session.files.find session.here (Chars.toString path) with
    | .ok (_, .file ..) => true
    | _ => false
  match (Program.candidates (Program.directories session) path).find? isFile with
  | some path => return path
  | none => Activity.fail (path ++ ": not found".toList)

/-- The text of a script without the characters that are none. -/
def readable (text : Chars) : Chars :=
  text.filter (· ≠ '\x00')

/-- The text of a script. One that is no file is empty. -/
def scriptText (path : Chars) : Activity Chars := do
  let session ← get
  match session.files.find session.here (Chars.toString path) with
  | .ok (_, .file content _) => return readable (Chars.ofOctets content)
  | .ok _ => return []
  | .error cause =>
    Activity.fail ("cannot open ".toList ++ path ++ ": ".toList ++ Redirection.cause "No such file" cause)

/-- Notes how far a script has been read. The lines of a file are shown if that is asked for. -/
def noteReading (origin : Origin) (before after : Cursor) : Activity Unit := do
  modify fun session =>
    { session with reached := after.line, base := if origin = .own then after.line else session.base }
  if origin ≠ .text && (← get).has .verbose then
    modify (·.write 2 (before.rest.take (before.rest.length - after.rest.length)))

/-- Looks for the program that a stage of a pipeline is known to start, so that it is remembered. -/
def lookFor : Command → Activity Unit
  | .simple _ _ (word :: _) _ => do
    match Word.bare? word with
    | some text =>
      let name := String.ofList text
      if Chars.isName text && !(← get).functions.contains name && !Builtin.isNamed name then
        let _ ← Program.find false text
    | none => return ()
  | _ => return ()

mutual

/-- Carries out a command, and what is to be done on signals before it and after it. -/
def run : Nat → Mode → Command → Activity Unit
  | 0, _, _ => spent
  | fuel + 1, mode, command => do
    let heed := Process.heed (perform fuel)
    if (← get).has .noexec then heed
    else
      heed
      body fuel mode command
      heed

/-- Carries out a command by its kind. -/
def body : Nat → Mode → Command → Activity Unit
  | 0, _, _ => spent
  | fuel + 1, mode, command => do
    match command with
    | .nothing => return ()
    | .simple line assignments words redirects =>
      modify ({ · with line := line, outputStatus := 0 })
      checked mode (simple fuel mode assignments words redirects)
    | .redirected line inner redirects =>
      modify ({ · with line := line })
      let prepared ← redirects.mapM (Redirection.prepare (capture fuel))
      let inside := run fuel { mode with last := false } inner
      if !(← Redirection.during (capture fuel) false prepared inside) then check mode
    | .subshell line inner redirects =>
      modify ({ · with line := line })
      let prepared ← redirects.mapM (Redirection.prepare (capture fuel))
      let part : Activity Unit := do
        Redirection.applyAll (capture fuel) prepared
        run fuel { mode with last := true } inner
      if mode.last && !(← get).hasTraps then
        match ← Process.apart (perform fuel) part with
        | .exited status => Activity.setStatus status
        | .killed signal => throw (.killed signal)
      else
        modify Session.makeJob
        Activity.setStatus (← Process.report (← Process.apart (perform fuel) part))
      check mode
    | .sequence first second =>
      run fuel { mode with last := false } first
      run fuel mode second
    | .both first second =>
      run fuel ⟨true, false⟩ first
      if (← get).status = 0 then run fuel mode second
    | .either first second =>
      run fuel ⟨true, false⟩ first
      if (← get).status ≠ 0 then run fuel mode second
    | .negation inner =>
      run fuel ⟨true, false⟩ inner
      modify fun session => session.withStatus (if session.status = 0 then 1 else 0)
    | .pipeline stages =>
      modify Session.makeJob
      let endings ← pipeline fuel mode stages none
      Activity.receiveAll
      let statuses ← endings.mapM Process.report
      Activity.setStatus (statuses.getLast?.getD 0)
      check mode
    | .background inner => background fuel inner
    | .choice condition success failure =>
      run fuel ⟨true, false⟩ condition
      if (← get).status = 0 then run fuel mode success
      else if failure matches .nothing then Activity.setStatus 0
      else run fuel mode failure
    | .loop untilSuccess condition inner => asLoop (loop fuel mode.looked untilSuccess condition inner 0)
    | .each line name words inner =>
      modify ({ · with line := line })
      let values ← Expansion.fields (capture fuel) words
      if values.isEmpty then Activity.setStatus 0
      asLoop (each fuel mode.looked name values inner)
    | .selection line word branches =>
      modify ({ · with line := line })
      let text ← Expansion.text (capture fuel) word
      selection fuel mode text branches
    | .definition name inner =>
      modify fun session =>
        { session with functions := session.functions.insert name inner, status := 0 }

/-- Carries out what is to be done on a signal or at the end. -/
def perform : Nat → Chars → Activity Unit
  | 0, _ => spent
  | fuel + 1, text => do
    let _ ← Process.deeper (script fuel .text false (Cursor.start text) 0)

/-- What a command prints. Its status is kept for a command that has no words. -/
def capture : Nat → Command → Activity Chars
  | 0, _ => spent
  | _ + 1, .nothing => return []
  | fuel + 1, command => do
    let session := (← get).makeJob
    let (number, branch) := session.branch.withOutput
    let (ending, branch) := Process.depart (perform fuel) (run fuel ⟨false, true⟩ command) branch
    let (text, world) := branch.world.drain number
    set session
    Process.resume { branch with world := world }
    let status ← Process.report ending
    modify ({ · with outputStatus := status })
    return text.filter (· ≠ '\x00')

/-- Carries out the stages of a pipeline, each on the output of the one before. -/
def pipeline : Nat → Mode → List Command → Option Chars → Activity (List Ending)
  | 0, _, _, _ => spent
  | _ + 1, _, [], _ => return []
  | fuel + 1, mode, stage :: more, input => do
    lookFor stage
    let session ← get
    let work : StateM Session Ending := Process.depart (perform fuel) (run fuel { mode with last := true } stage)
    let branch :=
      match input with
      | some text => session.branch.openText 0 text
      | none => session.branch
    if more.isEmpty then
      let (ending, branch) := work branch
      set (session.resume branch).notice
      return [ending]
    else
      let (number, branch) := branch.withOutput
      let (ending, branch) := work branch
      let (text, world) := branch.world.drain number
      set (session.resume { branch with world := world }).notice
      let endings ← pipeline fuel mode more (some text)
      return ending :: endings

def background : Nat → Command → Activity Unit
  | 0, _ => spent
  | fuel + 1, command => do
    match command with
    | .pipeline stages =>
      Process.detach fun session =>
        let (endings, session) := (pipeline fuel {} stages none).run session
        match endings with
        | .ok endings => (endings.getLast?.getD (.exited 0), session)
        | .error _ => (.killed 9, session)
    | .redirected line inner redirects =>
      modify ({ · with line := line })
      let prepared ← redirects.mapM (Redirection.prepare (capture fuel))
      Process.detach (Process.depart (perform fuel) do
        Redirection.applyAll (capture fuel) prepared
        run fuel ⟨false, true⟩ inner)
    | command => Process.detach (Process.depart (perform fuel) (run fuel ⟨false, true⟩ command))

/-- Carries out a loop; the status is that of its last turn. -/
def loop : Nat → Bool → Bool → Command → Command → Nat → Activity Unit
  | 0, _, _, _, _, _ => spent
  | fuel + 1, looked, untilSuccess, condition, inner, status => do
    match ← keepingStatus status (turn (run fuel ⟨true, false⟩ condition)) with
    | .next => loop fuel looked untilSuccess condition inner status
    | .finished => Activity.setStatus status
    | .done =>
      if ((← get).status = 0) = untilSuccess then Activity.setStatus status
      else
        match ← turn (run fuel ⟨looked, false⟩ inner) with
        | .finished => return ()
        | .next | .done =>
          let session ← get
          loop fuel looked untilSuccess condition inner session.status

def each : Nat → Bool → String → List Chars → Command → Activity Unit
  | 0, _, _, _, _ => spent
  | _ + 1, _, _, [], _ => return ()
  | fuel + 1, looked, name, value :: more, inner => do
    Activity.assign name value
    match ← turn (run fuel ⟨looked, false⟩ inner) with
    | .finished => return ()
    | .next | .done => each fuel looked name more inner

/-- Carries out the first branch with a pattern for a text. -/
def selection : Nat → Mode → Chars → List (List Word × Command) → Activity Unit
  | 0, _, _, _ => spent
  | _ + 1, _, _, [] => Activity.setStatus 0
  | fuel + 1, mode, text, (patterns, inner) :: more => do
    let isChosen ← patterns.anyM fun word => do
      return (← Expansion.patternOfWord (capture fuel) word).matchesFrom text
    if isChosen then
      if inner matches .nothing then Activity.setStatus 0 else run fuel mode inner
    else selection fuel mode text more

/-- Shows a command before it is carried out, if that is asked for. -/
def trace : Nat → Option Nat → List Chars → Activity Unit
  | 0, _, _ => spent
  | fuel + 1, stream, texts => do
    let session ← get
    if session.has .xtrace && !session.tracing then
      set { session with tracing := true }
      let mark := (session.valueOf? "PS4").getD []
      let shown : Activity Chars :=
        match Command.promptWord mark with
        | .ok word => Expansion.document (capture fuel) word
        | .error _ => return mark
      let shown :=
        match ← shown.outcome with
        | .ok text => text
        | .error _ => mark
      modify ({ · with tracing := false })
      let text := shown ++ [' '].intercalate texts ++ ['\n']
      modify fun session => (stream.bind fun stream => session.writeTo? stream text).getD session

/-- Carries out a simple command: assignments alone, a function, a command of the shell or a program. -/
def simple : Nat → Mode → List (String × Word) → List Word → List Redirect → Activity Unit
  | 0, _, _, _, _ => spent
  | fuel + 1, mode, assignments, words, redirects => do
    let resolution ← CommandLine.resolve (capture fuel) fuel words
    asCommand resolution.keepsVariables do
      let prepared ← redirects.mapM (Redirection.prepare (capture fuel))
      let messages := (← get).descriptors.lookup 2
      let isReady ← Redirection.during (capture fuel) resolution.replacesShell prepared do
        let shown ← assignments.mapM fun (name, word) => do
          let value ← Expansion.assigned (capture fuel) word
          if resolution.keepsVariables then Activity.assignKept true name (some value)
          else
            Activity.assign name value
            if resolution.replacesShell && 1 < resolution.line.ahead.length then modify (·.exportVariable name)
          return Chars.ofString name ++ '=' :: value
        trace fuel messages (shown ++ resolution.fields)
        carryOut fuel mode resolution
      if !isReady && resolution.leavesOnFault then throw .fault

/-- Carries out a command whose words are expanded. -/
def carryOut : Nat → Mode → CommandLine.Resolution → Activity Unit
  | 0, _, _ => spent
  | fuel + 1, mode, resolution => do
    let session ← get
    match resolution.line.ahead, resolution.builtin with
    | [], _ => Activity.setStatus session.outputStatus
    | _ :: arguments, some name => builtin fuel mode.looked resolution.leavesOnFault name arguments
    | head :: arguments, none =>
      let name := String.ofList head
      match if resolution.skipsFunctions then none else session.functions.get? name with
      | some inner => call fuel mode.looked inner arguments
      | none =>
        if Builtin.isNamed name then builtin fuel mode.looked false name arguments
        else
          match ← Program.find resolution.standard head with
          | .error cause =>
            Activity.complain (head ++ ": ".toList ++ Program.reason cause)
            Activity.setStatus Program.missing
          | .ok _ => execute fuel mode resolution.standard head arguments

def call : Nat → Bool → Command → List Chars → Activity Unit
  | 0, _, _, _ => spent
  | fuel + 1, looked, inner, arguments => do
    let session ← get
    set { session with calls := session.calls + 1 }
    if Session.callLimit ≤ session.calls then
      Activity.fail
        ("Maximum function recursion depth (".toList ++ Chars.ofNat Session.callLimit ++ ") reached".toList)
    modify fun entered =>
      { entered with arguments := arguments, optionIndex := 1, optionOffset := none, loops := 0 }
    let outcome ← (run fuel ⟨looked, false⟩ inner).outcome
    modify fun after =>
      { after with
        arguments := session.arguments
        optionIndex := session.optionIndex
        optionOffset := session.optionOffset
        loops := session.loops
        calls := after.calls - 1 }
    match outcome with
    | .error (.leaveFunction _) => return ()
    | outcome => Activity.conclude outcome

/-- Carries out a command of the shell. A fault leaves the shell after some of them only. -/
def builtin : Nat → Bool → Bool → String → List Chars → Activity Unit
  | 0, _, _, _, _ => spent
  | fuel + 1, looked, leavesOnFault, name, arguments => do
    let caller := (← get).caller
    modify ({ · with caller := some (Chars.ofString name) })
    let outcome ← (do
      let status ← builtinStatus fuel looked name arguments
      let isPrinted ← Activity.flush
      if !isPrinted then Activity.complain (Chars.ofString (name ++ ": I/O error"))
      Activity.setStatus (if isPrinted then status else status ||| 1) : Activity Unit).outcome
    modify ({ · with caller := caller, printed := [] })
    match outcome with
    | .error .fault => if leavesOnFault then throw .fault
    | outcome => Activity.conclude outcome

/-- Does what a command of the shell does, and gives its status. -/
def builtinStatus : Nat → Bool → String → List Chars → Activity Nat
  | 0, _, _, _ => spent
  | fuel + 1, looked, name, arguments => do
    match name, arguments with
    | "eval", [] => return 0
    | "eval", texts => Process.deeper (script fuel .text looked (Cursor.start ([' '].intercalate texts)) 0)
    | ".", arguments =>
      match ← Builtin.operands arguments with
      | [] => return 0
      | path :: _ =>
        let path ← scriptPath path
        let text ← scriptText path
        modify ({ · with caller := some path })
        match ← (Process.deeper (script fuel .file false (Cursor.start text) 0)).outcome with
        | .error (.leaveFunction _) => return (← get).status
        | outcome => Activity.conclude outcome
    | "exec", [] => return 0
    | "exec", head :: arguments =>
      match Program.named { ← get with found := [] } false head with
      | .error cause =>
        Activity.complain (head ++ ": ".toList ++ Program.reason cause)
        Activity.setStatus (Program.status cause)
        throw .leaveShell
      | .ok program =>
        match ← start fuel program head arguments with
        | .exited status =>
          modify fun session =>
            { session with status := status, traps := session.traps.filter (·.1 ≠ 0) }
          throw .leaveShell
        | .killed signal => throw (.killed signal)
    | "command", arguments => Builtin.command arguments
    | "type", arguments => Builtin.type arguments
    | "hash", arguments => Builtin.hash arguments
    | name, arguments =>
      match Builtin.named? name with
      | some builtin => builtin arguments
      | none => return 0

/-- Carries out a program. The last thing that a process does takes its place. -/
def execute : Nat → Mode → Bool → Chars → List Chars → Activity Unit
  | 0, _, _, _, _ => spent
  | fuel + 1, mode, standard, head, arguments => do
    let session ← get
    match Program.named session standard head with
    | .error cause =>
      Activity.complain (head ++ ": ".toList ++ Program.reason cause)
      Activity.setStatus (Program.status cause)
    | .ok program =>
      if mode.last && !session.hasTraps then
        match ← start fuel program head arguments with
        | .exited status => Activity.setStatus status
        | .killed signal => throw (.killed signal)
      else
        modify Session.makeJob
        Activity.setStatus (← Process.report (← start fuel program head arguments))

/-- Starts a program under a name and waits for its end. -/
def start : Nat → Program → Chars → List Chars → Activity Ending
  | 0, _, _, _ => spent
  | fuel + 1, program, head, arguments => do
    let session ← get
    if Session.depthLimit ≤ session.depth then return .killed 11
    let launch (name : String) (head : Chars) (arguments : List Chars) : Activity Ending := do
      let (ending, child) := known fuel name arguments (session.child head arguments)
      Process.resume child
      return ending
    match program.entry with
    | .program name => launch name head arguments
    | .file content _ =>
      match Program.interpreter? content with
      | some (path, given) =>
        match Program.atPath session path with
        | .ok interpreter => start fuel interpreter path (given ++ program.path :: arguments)
        | .error cause =>
          Activity.complain (head ++ ": ".toList ++ Program.reason cause)
          return .exited (Program.status cause)
      | none => launch Program.shellName Program.shellPath.toList (program.path :: arguments)
    | _ => return .exited Program.notRunnable

def known : Nat → String → List Chars → StateM Session Ending
  | 0, _, _ => return .killed 9
  | fuel + 1, name, arguments => do
    if name = Program.shellName then shell fuel arguments
    else if name = Program.environmentName then environment fuel arguments
    else
      match Program.known? name with
      | some utility =>
        modify (utility arguments)
        return .exited ((← get).status % 256)
      | none => return .exited Program.missing

/-- Carries out the program that starts others with other variables. -/
def environment : Nat → List Chars → StateM Session Ending
  | 0, _ => return .killed 9
  | fuel + 1, arguments => do
    let trouble := Utility.Environment.trouble
    match Utility.Environment.ofArguments arguments with
    | .error problem =>
      modify fun session => Utility.pointToHelp trouble (Utility.complain problem session)
      return .exited trouble
    | .ok environment =>
      match environment.enter (environment.applyTo (← get)) with
      | .error problem =>
        modify (Utility.complain problem)
        return .exited trouble
      | .ok session =>
        set session
        match environment.command with
        | [] =>
          let (session, status) := environment.list session
          set session
          return .exited status
        | head :: arguments =>
          let path := (Program.directories session).getD Utility.Environment.fallbackPath
          let paths := if head.contains '/' then [head] else Program.candidates (some path) head
          match Program.firstAt session .notFound paths with
          | .ok found =>
            match ← (start fuel found head arguments).run with
            | .ok ending => return ending
            | .error _ => return .killed 9
          | .error cause =>
            modify (Utility.Environment.refuse head cause)
            return .exited (Program.status cause)

/-- Carries out a shell that has been started with arguments. -/
def shell : Nat → List Chars → StateM Session Ending
  | 0, _ => return .killed 9
  | fuel + 1, arguments =>
    Process.depart (perform fuel) do
      modify Invocation.opened
      let invocation ← Invocation.ofArguments arguments
      match invocation.givesScript, invocation.operands with
      | true, text :: more =>
        modify fun session =>
          { session with name := more.headD session.name, arguments := more.drop 1 }
        let _ ← script fuel .text false (Cursor.start text) 0
      | _, operands =>
        if (← get).has .stdin then modify ({ · with arguments := operands })
        else
          let path := operands.headD []
          let text ← scriptText path
          modify ({ · with name := path, arguments := operands.drop 1 })
          let _ ← script fuel .own false (Cursor.start text) 0
      if (← get).has .stdin then
        let (text, session) := (← get).readAll 0
        set session
        let _ ← script fuel .own false (Cursor.start (readable text)) 0

/-- Carries out a script line by line; a line is read when those before it have been carried out. Gives the status
of the last command. -/
def script : Nat → Origin → Bool → Cursor → Nat → Activity Nat
  | 0, _, _, _, _ => spent
  | fuel + 1, origin, looked, cursor, status => do
    let cursor := { cursor with aliases := (← get).aliases }
    match Command.readLine cursor with
    | .error fault =>
      modify ({ · with line := fault.line })
      Activity.fail ("Syntax error: ".toList ++ Chars.ofString fault.problem.message)
    | .ok (none, after) =>
      noteReading origin cursor after
      return status
    | .ok (some command, after) =>
      noteReading origin cursor after
      run fuel ⟨looked, false⟩ command
      let session ← get
      script fuel origin looked after (if command matches .nothing then status else session.status)

end

end Evaluation

end Relink.Shell
