import Relink.Files.Path
import Relink.Files.Tree
import Relink.Inventory.Basic
import Relink.Text.Blank

namespace Relink.Inventory

open Link (Mac)

/-- The devices that the kernel shows below a directory: one directory, or link to one, for each. -/
def ofDirectory (files : Files.Tree) (here : Files.Place) (root : String) : Inventory where
  interfaces :=
    (files.list here root).map fun names =>
      names.filter fun name => files.isDirectoryAt here (Files.Path.join root name)
  operState device :=
    let path := Files.Path.join (Files.Path.join root device) "operstate"
    (files.readText here path).map Text.trim
  hardwareAddress device :=
    let path := Files.Path.join (Files.Path.join root device) "address"
    match files.readText here path with
    | .ok text => (Mac.parse text).toOption
    | .error _ => none
  driverName device :=
    let path :=
      Files.Path.join (Files.Path.join (Files.Path.join root device) "device") "driver"
    match files.find here path with
    | .ok (place, _) => place.getLast?
    | .error _ => none

end Relink.Inventory
