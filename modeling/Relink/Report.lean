import Relink.Failure
import Relink.Phase
import Relink.Plan
import Relink.Services

namespace Relink

/-- A failure that did not end the pass, with the device or unit that it struck. -/
structure ItemFailure where
  phase : Phase
  item : String
  failure : Failure
  deriving DecidableEq

/-- What a pass did: which backends it restarts, the devices it found, the renames that succeeded and
the failures it met, in order. -/
structure Report where
  restarts : Services
  devices : List String
  renames : Plan
  failures : List ItemFailure

namespace Report

def empty : Report := ⟨Services.none, [], ∅, []⟩

def isClean (report : Report) : Bool :=
  report.failures.isEmpty

def failuresIn (report : Report) (phase : Phase) : List ItemFailure :=
  report.failures.filter (·.phase = phase)

def record (report : Report) (phase : Phase) (item : String) (failure : Failure) : Report :=
  { report with failures := report.failures ++ [⟨phase, item, failure⟩] }

def recordResult (report : Report) (phase : Phase) (item : String) :
    Except Failure Unit → Report
  | .ok _ => report
  | .error failure => report.record phase item failure

end Report

end Relink
