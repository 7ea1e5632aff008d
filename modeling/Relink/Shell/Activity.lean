import Relink.Shell.Session
import Relink.Shell.Signal
import Relink.Word

/-! What a shell does step by step: its condition changes, and it may leave what it is at before the end. -/

namespace Relink.Shell

/-- Why a shell leaves what it is at: loops or a function are left, a fault has been reported, the shell is
left, or a signal ends its process. Whether a function has been given its status counts where a trap is
left. -/
inductive Escape where
  | leaveLoops (count : Nat)
  | nextTurn (count : Nat)
  | leaveFunction (chosen : Bool)
  | fault
  | leaveShell
  | killed (signal : Nat)
  deriving DecidableEq

/-- What a shell does: it changes its condition and gives a value, or leaves what it is at. -/
abbrev Activity := ExceptT Escape (StateM Session)

namespace Activity

/-- Carries out an activity and gives its value or why it was left. -/
def outcome {α : Type} (activity : Activity α) : Activity (Except Escape α) := fun session =>
  let (result, session) := activity session
  (.ok result, session)

/-- Puts the condition in order after an activity, however that ends. -/
def andThen {α : Type} (activity : Activity α) (order : Session → Session) : Activity α := fun session =>
  let (result, session) := activity session
  (result, order session)

/-- Goes on with what an activity came to. -/
def conclude {α : Type} : Except Escape α → Activity α
  | .ok value => return value
  | .error escape => throw escape

def setStatus (status : Nat) : Activity Unit :=
  modify (·.withStatus status)

/-- Prints a text when the command at work ends. -/
def print (text : Chars) : Activity Unit :=
  modify fun session => { session with printed := text :: session.printed }

/-- Prints the texts that the command at work has printed. Gives whether that could be done. -/
def flush : Activity Bool := do
  let session ← get
  let text := session.printed.reverse.flatten
  let session := { session with printed := [] }
  if text.isEmpty then
    set session
    return true
  else
    match session.write? 1 text with
    | some session =>
      set session
      return true
    | none =>
      set session
      return false

/-- Prints a message of the shell. It begins with the name of the shell, the line and the command at work. -/
def complain (message : Chars) : Activity Unit :=
  modify fun session =>
    let caller := (session.caller.map (· ++ ": ".toList)).getD []
    session.write 2
      (session.name ++ ": ".toList ++ Chars.ofNat session.line ++ ": ".toList ++ caller ++ message ++ ['\n'])

/-- The exit status after a fault. -/
def faulty : Nat := 2

/-- Reports a fault and leaves what the shell is at. -/
def fail {α : Type} (message : Chars) : Activity α := do
  complain message
  let _ ← flush
  setStatus faulty
  throw .fault

/-- Reports that a text does not write a number. -/
def failNumber {α : Type} (text : Chars) : Activity α :=
  fail ("Illegal number: ".toList ++ text)

/-- The integer that a text begins with, decimal digits after blanks and a sign, and what follows. -/
def leadingInteger? (text : Chars) : Option (Int × Chars) :=
  let cs := text.dropWhile Char.isWhitespace
  let (negative, cs) :=
    match cs with
    | '-' :: rest => (true, rest)
    | '+' :: rest => (false, rest)
    | cs => (false, cs)
  (Chars.toNat? (cs.takeWhile Char.isDigit)).map fun n =>
    (if negative then -(n : Int) else n, cs.dropWhile Char.isDigit)

/-- The integer of 64 bits that a whole text writes, but for blanks around it. -/
def integer? (text : Chars) : Option Int :=
  match leadingInteger? text with
  | some (n, rest) =>
    if rest.all Char.isWhitespace && Word.least 64 ≤ n && n ≤ Word.greatest 64 then some n else none
  | none => none

def count (text : Chars) : Activity Nat :=
  match integer? text with
  | some n => if 0 ≤ n && n ≤ Word.greatest 32 then return n.toNat else failNumber text
  | none => failNumber text

/-- Gives a variable a value, unless it is constant. Some variables are heeded by the shell. -/
def assign (name : String) (value : Chars) : Activity Unit := do
  if (← get).isConstant name then fail (Chars.ofString name ++ ": is read only".toList)
  if name = Session.optionVariable then let _ ← count value
  modify fun session => (session.assign name value).heed name (some value)

/-- Forgets a variable, unless it is constant. -/
def forget (name : String) : Activity Unit := do
  if (← get).isConstant name then fail (Chars.ofString name ++ ": is read only".toList)
  modify fun session => { session with bindings := session.bindings.erase name }.heed name none

/-- Notes a variable, so that it is put back when the command at work ends, and gives it a value if there is
one. -/
def assignKept (exported : Bool) (name : String) (value : Option Chars) : Activity Unit := do
  let old := (← get).bindings.get? name
  match value with
  | some value => assign name value
  | none => modify (·.alter name id)
  if exported then modify (·.exportVariable name)
  modify (·.keep (.variable name old))

/-- Receives a signal: what is to be done on it is done later, and without that it may end the process. -/
def receive (signal : Nat) : Activity Unit := do
  let session ← get
  if Signal.inescapable.contains signal then
    if !Signal.harmless.contains signal then throw (.killed signal)
  else if session.ignored.contains signal then return ()
  else
    match session.traps.lookup signal with
    | some action =>
      if !action.isEmpty && !session.pending.contains signal then
        set { session with pending := session.pending ++ [signal] }
    | none => if !Signal.harmless.contains signal then throw (.killed signal)

/-- Receives the signals on their way to this process; those to others go on. -/
def receiveAll : Activity Unit := do
  let session ← get
  let (own, others) := session.world.signals.partition fun sent =>
    sent.process = session.process && sent.time ≤ session.world.clock
  set { session with world := { session.world with signals := others } }
  own.forM fun sent => receive sent.signal

end Activity

end Relink.Shell
