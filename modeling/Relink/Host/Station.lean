import Relink.Artifacts
import Relink.Commands
import Relink.Declared.Layers
import Relink.Host
import Relink.Inventory.Sysfs
import Relink.Machine

namespace Relink

/-- A machine that is managed by the commands of its settings. -/
structure Station where
  machine : Machine
  settings : Settings

namespace Station

open Shell (Outcome)

def execute (command : String) (station : Station) : Except Failure Outcome × Station :=
  let (result, machine) := station.machine.run command
  let station := { station with machine := machine }
  match result with
  | .ok outcome => (.ok outcome, station)
  | .error cause => (.error (.shellStart command cause), station)

/-- Runs a command that must succeed, or fails as `failure` says. -/
def demand (command : String) (failure : Outcome → Failure) (station : Station) :
    Except Failure String × Station :=
  match station.execute command with
  | (.ok outcome, station) =>
    (if outcome.success then .ok outcome.stdout else .error (failure outcome), station)
  | (.error failure, station) => (.error failure, station)

/-- Runs a command and gives what it prints; its failure is reported with its exit status. -/
def output (command : String) (station : Station) : Except Failure String × Station :=
  station.demand command fun outcome => .shellExit command outcome.exitCode outcome.combined

/-- The attempt of a deed, whatever it prints. -/
def attempt (result : Except Failure String × Station) : Except Failure Unit × Station :=
  (result.1.map fun _ => (), result.2)

def generate (station : Station) : Except Failure Int × Station :=
  let (result, station) := station.execute (Commands.generate station.settings.paths.generator)
  (result.map (·.exitCode), station)

def control (backend : Backend) (action : Action) (units : List String) (sync : Bool)
    (station : Station) : Except Failure Unit × Station :=
  attempt (station.output (Commands.control station.settings.commands.systemctl backend action units sync))

/-- Whether the connection manager runs; if it cannot be asked it does not. -/
def managerRunning (station : Station) : Bool × Station :=
  let (result, station) := station.execute (Commands.managerRunning station.settings.commands.nmcli)
  (match result with
    | .ok outcome => outcome.success
    | .error _ => false, station)

def disconnect (device : String) (station : Station) : Except Failure Unit × Station :=
  attempt (station.output (Commands.disconnect station.settings.commands.nmcli device))

def applyLinkRules (device : String) (station : Station) : Except Failure Unit × Station :=
  attempt (station.output
    (Commands.applyLinkRules station.settings.commands.udevadm station.settings.paths.devices device))

def rename (device newName : String) (station : Station) : Except Failure Unit × Station :=
  attempt (station.demand (Commands.rename station.settings.commands.ip device newName) fun outcome =>
    .rename device newName outcome.combined)

def settle (station : Station) : Except Failure Unit × Station :=
  attempt (station.demand (Commands.settle station.settings.commands.udevadm) fun outcome =>
    .settle outcome.combined)

def load (station : Station) : Except Failure Declared :=
  Declared.load station.machine.files station.machine.here station.settings.paths.configDirectories

instance : Host Station where
  inventory station :=
    Inventory.ofDirectory station.machine.files station.machine.here station.settings.paths.devices
  hasArtifacts station :=
    Artifacts.present station.machine.files station.machine.here station.settings.paths
  auxiliaryUnits station :=
    Artifacts.auxiliaryUnits station.machine.files station.machine.here station.settings.paths
  generate := generate
  control := control
  managerRunning := managerRunning
  disconnect := disconnect
  applyLinkRules := applyLinkRules
  rename := rename
  settle := settle

end Station

end Relink
