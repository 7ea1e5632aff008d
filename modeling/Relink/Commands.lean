import Relink.Backend
import Relink.Files.Path
import Relink.Shell.Quote

/-! The commands that the tools of a host are run by. Every name that comes from outside is quoted as one
word. -/

namespace Relink.Commands

open Shell (quote)

/-- Starts or stops a backend with further units, and waits for it only if asked to. -/
def control (systemctl : String) (backend : Backend) (action : Action) (units : List String)
    (sync : Bool) : String :=
  let wait := if sync then "" else " --no-block"
  systemctl ++ " " ++ action.verb ++ wait ++
    String.join ((backend.service :: units).map fun unit => " " ++ quote unit)

/-- Asks whether the connection manager runs. -/
def managerRunning (nmcli : String) : String :=
  nmcli ++ " general"

/-- Takes a device from the connection manager. -/
def disconnect (nmcli device : String) : String :=
  nmcli ++ " device disconnect " ++ quote device

/-- Applies the link rules to a device below a directory of devices. -/
def applyLinkRules (udevadm devices device : String) : String :=
  udevadm ++ " test-builtin net_setup_link " ++ quote (Files.Path.join devices device)

def rename (ip device newName : String) : String :=
  ip ++ " link set dev " ++ quote device ++ " name " ++ quote newName

def settle (udevadm : String) : String :=
  udevadm ++ " settle"

def generate (generator : String) : String :=
  quote generator

end Relink.Commands
