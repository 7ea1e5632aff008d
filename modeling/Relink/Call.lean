import Relink.Backend
import Relink.Text.Literal

namespace Relink

/-- Something done to a host, or asked of its services. -/
inductive Call where
  | generate
  | backend (backend : Backend) (action : Action) (units : List String) (sync : Bool)
  | managerRunning
  | disconnect (device : String)
  | linkRules (device : String)
  | rename (device newName : String)
  | settle
  deriving DecidableEq

namespace Call

def backendWord : Backend → String
  | .networkd => "Networkd"
  | .networkManager => "NetworkManager"

def actionWord : Action → String
  | .start => "Start"
  | .stop => "Stop"

/-- Named fields between braces. -/
def record (name : String) (fields : List (String × String)) : String :=
  name ++ " \x7b " ++ ", ".intercalate (fields.map fun (field, value) => field ++ ": " ++ value) ++ " \x7d"

/-- The form in which a call log is read by people. -/
def toText : Call → String
  | generate => "Generate"
  | backend service action units sync =>
    record "Backend"
      [("backend", backendWord service), ("action", actionWord action),
        ("extra_units", "[" ++ ", ".intercalate (units.map Text.literal) ++ "]"),
        ("sync", if sync then "true" else "false")]
  | managerRunning => "NetworkManagerRunning"
  | disconnect device => "Disconnect(" ++ Text.literal device ++ ")"
  | linkRules device => "LinkRules(" ++ Text.literal device ++ ")"
  | rename device newName =>
    record "Rename" [("device", Text.literal device), ("new_name", Text.literal newName)]
  | settle => "Settle"

def isBackend (wanted : Backend) (deed : Action) : Call → Bool
  | backend service action _ _ => service == wanted && action == deed
  | _ => false

end Call

end Relink
