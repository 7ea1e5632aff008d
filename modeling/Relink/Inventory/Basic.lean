import Relink.Failure
import Relink.Link.Mac
import Relink.Link.OperState

namespace Relink

open Link (Mac OperState)

/-- What can be read of the network devices of a host at one moment. -/
structure Inventory where
  interfaces : Except SystemError (List String)
  operState : String → Except SystemError String
  hardwareAddress : String → Option Mac
  driverName : String → Option String

/-- Whether a device may be renamed: it is down, or in use in some state. -/
inductive DeviceClass where
  | eligible (driver : Option String)
  | active (state : OperState)
  deriving DecidableEq

/-- Classifies a device by its operational state; a word that the kernel does not use counts as
unknown. -/
def Inventory.classify (inventory : Inventory) (device : String) : Except Failure DeviceClass :=
  match inventory.operState device with
  | .error cause => .error (.deviceState device cause)
  | .ok word =>
    let state := (OperState.parse word).toOption.getD .unknown
    if state = .down then .ok (.eligible (inventory.driverName device)) else .ok (.active state)

end Relink
