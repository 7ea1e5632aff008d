import Relink.Link.Invalid

namespace Relink.Link

/-- The operational state that the kernel reports of a device. -/
inductive OperState where
  | unknown
  | notPresent
  | down
  | lowerLayerDown
  | testing
  | dormant
  | up
  deriving DecidableEq

namespace OperState

/-- The state of a device of which nothing is known. -/
instance : Inhabited OperState := ⟨.unknown⟩

def toText : OperState → String
  | .unknown => "unknown"
  | .notPresent => "notpresent"
  | .down => "down"
  | .lowerLayerDown => "lowerlayerdown"
  | .testing => "testing"
  | .dormant => "dormant"
  | .up => "up"

def all : List OperState :=
  [.unknown, .notPresent, .down, .lowerLayerDown, .testing, .dormant, .up]

/-- Reads the kernel's word exactly: neither another case nor blanks around it are accepted. -/
def parse (text : String) : Except Invalid OperState :=
  match all.find? (·.toText == text) with
  | some state => .ok state
  | none => .error (.operState text)

theorem parse_toText (state : OperState) : parse state.toText = .ok state := by
  cases state <;> rfl

end OperState

end Relink.Link
