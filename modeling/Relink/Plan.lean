import Relink.Inventory.Basic
import Relink.MatchTables

/-! Which devices are renamed. A device is only if it is a declared link, belongs to no composite, is down,
and has not got its name already. -/

namespace Relink

/-- The devices to rename, each with its new name. -/
abbrev Plan := Table String

namespace Plan

/-- The name among those given by driver and by address that a device shall take. The address counts
more, and a device that already has the name given for either takes none from there. -/
def preferred (device : String) (byDriver byAddress : Option String) : Option String :=
  (byAddress.filter (· ≠ device)).or (byDriver.filter (· ≠ device))

/-- The new name of a device: it must be a declared physical link, in no composite, and down. -/
def targetFor? (declared : Declared) (tables : MatchTables) (inventory : Inventory)
    (device : String) : Option String :=
  if !declared.isPhysical device then none
  else if Composite.isMember declared.composites device then none
  else
    match inventory.classify device with
    | .ok (.eligible driver) =>
      preferred device (driver.bind tables.forDriver?)
        ((inventory.hardwareAddress device).bind tables.forAddress?)
    | _ => none

def ofInterfaces (declared : Declared) (inventory : Inventory) (interfaces : List String) : Plan :=
  let tables := MatchTables.ofRules declared.rules
  if tables.isEmpty then ∅
  else
    Table.ofList <| interfaces.filterMap fun device =>
      (targetFor? declared tables inventory device).map fun name => (device, name)

end Plan

end Relink
