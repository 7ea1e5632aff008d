import Relink.Call

/-! Statements about the order of the calls made to a host. Each is decided by the positions of calls, and one
that fails says why. -/

namespace Relink

/-- The calls made to a host, the earliest first. -/
abbrev CallLog := List Call

/-- Why a statement about a call log does not hold. -/
inductive CallLog.Refutation where
  | missing (call : Call)
  | missingFirst
  | missingSecond
  | unexpected (call : Call) (position : Nat)
  | disorder (first : Call) (firstPosition : Nat) (second : Call) (secondPosition : Nat)
  deriving DecidableEq

namespace CallLog

def Refutation.message : Refutation → String
  | missing call => "Expected call " ++ call.toText ++ " was never made"
  | missingFirst => "Expected call first was never made"
  | missingSecond => "Expected call second was never made"
  | unexpected call position =>
    "Unexpected call " ++ call.toText ++ " at position " ++ toString position
  | disorder first firstPosition second secondPosition =>
    "Expected " ++ first.toText ++ " (at " ++ toString firstPosition ++ ") before " ++
      second.toText ++ " (at " ++ toString secondPosition ++ ")"

/-- The first call that satisfies a predicate, with its position counted on from a start. -/
def firstFrom? (wanted : Call → Bool) : Nat → CallLog → Option (Nat × Call)
  | _, [] => none
  | position, call :: rest =>
    if wanted call then some (position, call) else firstFrom? wanted (position + 1) rest

/-- The first call that satisfies a predicate, with its position. -/
def first? (log : CallLog) (wanted : Call → Bool) : Option (Nat × Call) :=
  firstFrom? wanted 0 log

/-- The last call that satisfies a predicate, with its position. -/
def last? (log : CallLog) (wanted : Call → Bool) : Option (Nat × Call) :=
  (firstFrom? wanted 0 log.reverse).map fun (position, call) => (log.length - 1 - position, call)

/-- The position of the first call that satisfies a predicate. -/
def position? (log : CallLog) (wanted : Call → Bool) : Option Nat :=
  (log.first? wanted).map Prod.fst

def lastPosition? (log : CallLog) (wanted : Call → Bool) : Option Nat :=
  (log.last? wanted).map Prod.fst

def count (log : CallLog) (wanted : Call → Bool) : Nat :=
  log.countP wanted

/-- States that a call was made; gives its first position. -/
def called (log : CallLog) (call : Call) : Except Refutation Nat :=
  match log.position? (· == call) with
  | some position => .ok position
  | none => .error (.missing call)

/-- States that no call satisfies a predicate. -/
def absent (log : CallLog) (unwanted : Call → Bool) : Except Refutation Unit :=
  match log.first? unwanted with
  | some (position, call) => .error (.unexpected call position)
  | none => .ok ()

/-- States that there are calls of two kinds, and that all of the first come before all of the second. -/
def before (log : CallLog) (first second : Call → Bool) : Except Refutation Unit :=
  match log.last? first, log.first? second with
  | none, _ => .error .missingFirst
  | some _, none => .error .missingSecond
  | some (firstPosition, firstCall), some (secondPosition, secondCall) =>
    if firstPosition < secondPosition then .ok ()
    else .error (.disorder firstCall firstPosition secondCall secondPosition)

end CallLog

end Relink
