import Relink.CallLog
import Relink.Host
import Relink.Services
import Relink.Table

namespace Relink

open Link (Mac)

/-- A device on the bench; one without a state cannot tell it. -/
structure Bench.Device where
  state : Option String
  driver : Option String
  address : Option Mac
  deriving DecidableEq

/-- A host to try passes on: it keeps its devices and runtime files in memory, fails where it is told to,
and writes down every call. -/
structure Bench where
  devices : Table Bench.Device := ∅
  artifacts : Services := Services.none
  artifactsToCome : Services := Services.none
  generatorExit : Int := 0
  managerRuns : Bool := false
  units : List String := []
  enumerationFails : Bool := false
  settleFails : Bool := false
  failingRenames : List String := []
  failingDisconnects : List String := []
  failingLinkRules : List String := []
  failingControls : List (Backend × Action) := []
  calls : CallLog := []

namespace Bench

/-- What a failure on request reports. -/
def injected : String := "injected failure"

def log (bench : Bench) (call : Call) : Bench :=
  { bench with calls := bench.calls ++ [call] }

/-- Puts a device on the bench, in the place of one of the same name. -/
def addDevice (bench : Bench) (name : String) (device : Device) : Bench :=
  { bench with devices := bench.devices.insert name device }

/-- Says whether a backend has runtime files, and whether it will after the next generation. -/
def setArtifacts (bench : Bench) (backend : Backend) (now toCome : Bool) : Bench :=
  { bench with
    artifacts := bench.artifacts.set now backend
    artifactsToCome := bench.artifactsToCome.set toCome backend }

/-- Changes the state of a device, if there is one of the name. -/
def setState (bench : Bench) (name state : String) : Bench :=
  match bench.devices.get? name with
  | some device => bench.addDevice name { device with state := some state }
  | none => bench

/-- A failure on request of a command, unless it is not requested. -/
def obey (failing : Bool) (command : String) : Except Failure Unit :=
  if failing then .error (.shellExit command 1 injected) else .ok ()

/-- What is read of the devices on the bench. -/
def inventory (bench : Bench) : Inventory where
  interfaces :=
    if bench.enumerationFails then .error (.described injected) else .ok bench.devices.names
  operState name :=
    match (bench.devices.get? name).bind (·.state) with
    | some state => .ok state
    | none => .error (.described "no operstate")
  hardwareAddress name := (bench.devices.get? name).bind (·.address)
  driverName name := (bench.devices.get? name).bind (·.driver)

/-- Generates the runtime files, which takes effect if the exit status is zero. -/
def generate (bench : Bench) : Except Failure Int × Bench :=
  let bench := bench.log .generate
  if bench.generatorExit = 0 then (.ok 0, { bench with artifacts := bench.artifactsToCome })
  else (.ok bench.generatorExit, bench)

def control (backend : Backend) (action : Action) (units : List String) (sync : Bool)
    (bench : Bench) : Except Failure Unit × Bench :=
  (obey (bench.failingControls.contains (backend, action))
      ("systemctl " ++ action.verb ++ " " ++ backend.service),
    bench.log (.backend backend action units sync))

def disconnect (device : String) (bench : Bench) : Except Failure Unit × Bench :=
  (obey (bench.failingDisconnects.contains device) ("nmcli device disconnect " ++ device),
    bench.log (.disconnect device))

def applyLinkRules (device : String) (bench : Bench) : Except Failure Unit × Bench :=
  (obey (bench.failingLinkRules.contains device) ("udevadm test-builtin net_setup_link " ++ device),
    bench.log (.linkRules device))

/-- Why a rename is refused: on request, because the new name is taken, or for lack of the device. -/
def renameRefusal? (bench : Bench) (device newName : String) : Option String :=
  if bench.failingRenames.contains device then some injected
  else if bench.devices.contains newName then some "File exists"
  else if bench.devices.contains device then none
  else some "Cannot find device"

/-- The devices after one has moved to a new name. -/
def move (devices : Table Device) (device newName : String) : Table Device :=
  match devices.get? device with
  | some record => (devices.erase device).insert newName record
  | none => devices

def rename (device newName : String) (bench : Bench) : Except Failure Unit × Bench :=
  let bench := bench.log (.rename device newName)
  match bench.renameRefusal? device newName with
  | some reason => (.error (.rename device newName reason), bench)
  | none => (.ok (), { bench with devices := move bench.devices device newName })

def settle (bench : Bench) : Except Failure Unit × Bench :=
  (if bench.settleFails then .error (.settle "timeout waiting for udev queue") else .ok (),
    bench.log .settle)

instance : Host Bench where
  inventory := inventory
  hasArtifacts bench := bench.artifacts.has
  auxiliaryUnits bench := bench.units
  generate := generate
  control := control
  managerRunning bench := (bench.managerRuns, bench.log .managerRunning)
  disconnect := disconnect
  applyLinkRules := applyLinkRules
  rename := rename
  settle := settle

end Bench

end Relink
