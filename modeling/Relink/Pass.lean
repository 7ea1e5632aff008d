import Relink.Host
import Relink.Report

/-! A pass over a host, phase by phase. What goes wrong with one device or unit is reported and does not end
the pass; what keeps a phase from its result ends it. -/

namespace Relink

/-- What the caller asks of a pass. -/
structure Options where
  runGenerate : Bool := true
  sync : Bool := false
  exitOnError : Bool := true
  deriving DecidableEq

/-- A pass under way: the phase that comes next, which backends had runtime files at its beginning,
and the report so far. -/
structure Pass where
  options : Options
  phase : Phase
  before : Services
  report : Report

namespace Pass

variable {σ : Type} [Host σ]

def begin (options : Options) : Pass :=
  ⟨options, .snapshotBefore, Services.none, Report.empty⟩

/-- The problem reported for a failed generation that shall not set the exit status. -/
def generationProblem : String := "the configuration could not be generated"

/-- The units of backend `networkd` that are stopped with it. -/
def stopUnits : List String := ["netplan-wpa@*.service"]

def declaredItem : String := "declared configuration"

/-- The backends that have runtime files now. -/
def presence (host : σ) : Services :=
  ⟨Host.hasArtifacts host .networkd, Host.hasArtifacts host .networkManager⟩

/-- Generates the runtime files, unless the options say otherwise. -/
def generate (options : Options) (host : σ) : Except Failure Unit × σ :=
  if !options.runGenerate then (.ok (), host)
  else
    match Host.generate host with
    | (.error failure, host) => (.error failure, host)
    | (.ok exitCode, host) =>
      if exitCode = 0 then (.ok (), host)
      else if options.exitOnError then (.error (.generation exitCode), host)
      else (.error (.configuration generationProblem), host)

/-- Starts or stops a backend and records a failure under its unit. -/
def control (sync : Bool) (phase : Phase) (backend : Backend) (action : Action)
    (units : List String) (report : Report) (host : σ) : Report × σ :=
  let (result, host) := Host.control backend action units sync host
  (report.recordResult phase backend.service result, host)

/-- Disconnects devices; it does not matter which of them were connected. -/
def disconnectAll : List String → σ → σ
  | [], host => host
  | device :: rest, host => disconnectAll rest (Host.disconnect device host).2

/-- Stops the backend that brings links up by units alone. -/
def stopNetworkd (sync : Bool) (report : Report) (host : σ) : Report × σ :=
  if report.restarts.networkd then control sync .stop .networkd .stop stopUnits report host
  else (report, host)

/-- Stops the backend that holds connections, after taking the devices from it, if it runs. -/
def stopManager (sync : Bool) (report : Report) (host : σ) : Report × σ :=
  if report.restarts.networkManager then
    match Host.managerRunning host with
    | (false, host) => (report, host)
    | (true, host) =>
      control sync .stop .networkManager .stop [] report (disconnectAll report.devices host)
  else (report, host)

def applyLinkRules : List String → Report → σ → Report × σ
  | [], report, host => (report, host)
  | device :: rest, report, host =>
    let (result, host) := Host.applyLinkRules device host
    applyLinkRules rest (report.recordResult .linkRules device result) host

def applyRenames : List (String × String) → Report → σ → Report × σ
  | [], report, host => (report, host)
  | (device, name) :: rest, report, host =>
    match Host.rename device name host with
    | (.ok _, host) =>
      applyRenames rest { report with renames := report.renames.insert device name } host
    | (.error failure, host) => applyRenames rest (report.record .rename device failure) host

/-- Plans on the host as it is now and renames; without a declared configuration nothing is renamed. -/
def rename (declared : Except Failure Declared) (report : Report) (host : σ) : Report × σ :=
  match declared with
  | .error failure => (report.record .rename declaredItem failure, host)
  | .ok declared =>
    let plan := Plan.ofInterfaces declared (Host.inventory host) report.devices
    applyRenames plan.entries report host

def startAll (sync : Bool) (report : Report) (host : σ) : Report × σ :=
  let (report, host) :=
    if report.restarts.networkd then
      control sync .start .networkd .start (Host.auxiliaryUnits host) report host
    else (report, host)
  if report.restarts.networkManager then
    control sync .start .networkManager .start [] report host
  else (report, host)

/-- The pass with the report that a phase left, ready for the next phase. -/
def advance (pass : Pass) (result : Report × σ) : Except Failure Phase × Pass × σ :=
  (.ok pass.phase.next, { pass with phase := pass.phase.next, report := result.1 }, result.2)

/-- The pass after an attempt on the host: it moves on, or stays in its phase. -/
def attempt (pass : Pass) : Except Failure Unit × σ → Except Failure Phase × Pass × σ
  | (.ok _, host) => pass.advance (pass.report, host)
  | (.error failure, host) => (.error failure, pass, host)

/-- Carries out the phase that comes next. The declared configuration is loaded when it is needed. -/
def step (load : σ → Except Failure Declared) (pass : Pass) (host : σ) :
    Except Failure Phase × Pass × σ :=
  match pass.phase with
  | .snapshotBefore => { pass with before := presence host }.advance (pass.report, host)
  | .generate => pass.attempt (generate pass.options host)
  | .decide =>
    let decided := { pass.report with restarts := Services.toRestart pass.before (presence host) }
    match (Host.inventory host).interfaces with
    | .error cause => (.error (.enumeration cause), { pass with report := decided }, host)
    | .ok devices => pass.advance ({ decided with devices := devices }, host)
  | .stop =>
    let (report, host) := stopNetworkd pass.options.sync pass.report host
    pass.advance (stopManager pass.options.sync report host)
  | .linkRules => pass.advance (applyLinkRules pass.report.devices pass.report host)
  | .rename => pass.advance (rename (load host) pass.report host)
  | .settle => pass.attempt (Host.settle host)
  | .start => pass.advance (startAll pass.options.sync pass.report host)
  | .done => pass.advance (pass.report, host)

/-- Carries out as many phases as a list has, until one fails. -/
def runPhases (load : σ → Except Failure Declared) : List Phase → Pass → σ → Except Failure Report × σ
  | [], pass, host => (.ok pass.report, host)
  | _ :: rest, pass, host =>
    match pass.step load host with
    | (.error failure, _, host) => (.error failure, host)
    | (.ok _, pass, host) => runPhases load rest pass host

/-- Carries out every phase that remains. -/
def run (load : σ → Except Failure Declared) (pass : Pass) (host : σ) : Except Failure Report × σ :=
  runPhases load pass.phase.onward pass host

end Pass

end Relink
