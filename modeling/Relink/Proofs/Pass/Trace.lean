import Relink.Proofs.Pass.Run

/-! The calls of a whole pass, read off the bench at its beginning. Which of them fail has no say in them: only the
generation, the list of devices and the wait for them can end a pass. -/

namespace Relink.Pass

variable {options : Options} {loaded : Except Failure Declared} {bench after : Bench} {report : Report}

/-- The runtime files that a pass finds when it decides: the new ones, if it had them generated. -/
def artifactsFound (options : Options) (bench : Bench) : Services :=
  if options.runGenerate then bench.artifactsToCome else bench.artifacts

/-- Whether a pass restarts a backend: it had runtime files at the beginning, or it has them when the pass
decides. -/
def isRestarted (options : Options) (bench : Bench) (backend : Backend) : Bool :=
  bench.artifacts.has backend || (artifactsFound options bench).has backend

/-- The renames that are planned on a bench. Without a declared configuration there are none. -/
def planned (loaded : Except Failure Declared) (bench : Bench) : Plan :=
  match loaded with
  | .ok declared => .ofInterfaces declared bench.inventory bench.devices.names
  | .error _ => ∅

/-- The calls of a pass up to the one in which it waits for the devices. -/
def traceToSettle (options : Options) (loaded : Except Failure Declared) (bench : Bench) : CallLog :=
  (if options.runGenerate then [.generate] else []) ++
    (if isRestarted options bench .networkd then
      [.backend .networkd .stop ["netplan-wpa@*.service"] options.sync] else []) ++
    (if isRestarted options bench .networkManager then
      .managerRunning ::
        if bench.managerRuns then
          bench.devices.names.map .disconnect ++ [.backend .networkManager .stop [] options.sync]
        else []
      else []) ++
    bench.devices.names.map .linkRules ++
    (planned loaded bench).entries.map (fun entry => .rename entry.1 entry.2) ++
    [.settle]

def traceFromSettle (options : Options) (bench : Bench) : CallLog :=
  (if isRestarted options bench .networkd then [.backend .networkd .start bench.units options.sync] else []) ++
    if isRestarted options bench .networkManager then [.backend .networkManager .start [] options.sync] else []

/-- A generation that succeeds leaves the runtime files that were to come. -/
theorem artifacts_generateCalls (generated : generationFailure? options bench = none) :
    (bench.replay (generateCalls options)).artifacts = artifactsFound options bench := by
  cases wanted : options.runGenerate with
  | false => simp [generateCalls, artifactsFound, wanted]
  | true =>
    have success : bench.generatorExit = 0 := by simpa [generationFailure?, wanted] using generated
    simp [generateCalls, artifactsFound, wanted, Bench.perform, Bench.generate, Bench.log, success]

theorem restarts_has (generated : generationFailure? options bench = none) (backend : Backend) :
    (restarts options bench).has backend = isRestarted options bench backend := by
  rw [restarts, artifacts_generateCalls generated, isRestarted, Bool.or_comm]
  cases backend <;> rfl

theorem renameCalls_eq (loaded : Except Failure Declared) (bench : Bench) :
    renameCalls loaded bench bench.devices.names =
      (planned loaded bench).entries.map fun entry => .rename entry.1 entry.2 := by
  cases loaded <;> rfl

theorem settlingCalls_eq (generated : generationFailure? options bench = none) :
    settlingCalls options loaded bench = traceToSettle options loaded bench := by
  have networkd : (restarts options bench).networkd = isRestarted options bench .networkd :=
    restarts_has generated .networkd
  have manager : (restarts options bench).networkManager = isRestarted options bench .networkManager :=
    restarts_has generated .networkManager
  simp only [settlingCalls, openingCalls, traceToSettle, generateCalls, stopNetworkdCalls, stopManagerCalls, stopUnits,
    networkd, manager, renameCalls_eq, List.append_assoc]

theorem startCalls_eq (generated : generationFailure? options bench = none) :
    startCalls options.sync (restarts options bench) bench.units = traceFromSettle options bench := by
  have networkd : (restarts options bench).networkd = isRestarted options bench .networkd :=
    restarts_has generated .networkd
  have manager : (restarts options bench).networkManager = isRestarted options bench .networkManager :=
    restarts_has generated .networkManager
  simp only [startCalls, traceFromSettle, networkd, manager]

theorem completeCalls_eq (generated : generationFailure? options bench = none) :
    completeCalls options loaded bench = traceToSettle options loaded bench ++ traceFromSettle options bench := by
  rw [← settlingCalls_eq generated, ← startCalls_eq generated, settlingCalls, completeCalls]
  exact (List.append_assoc _ _ _).symm

/-- A pass that reaches its end has made these calls and no others, the devices and the renames in the order of the
names. It reaches its end with the same calls whichever devices and backends fail. -/
theorem calls_of_finished (finished : (begin options).run (fun _ => loaded) bench = (.ok report, after)) :
    bench.devices.names.Pairwise (· < ·) ∧ (planned loaded bench).names.Pairwise (· < ·) ∧
      after.calls = bench.calls ++ (traceToSettle options loaded bench ++ traceFromSettle options bench) ∧
      ∀ renames disconnects linkRules controls, ∃ report' after',
        (begin options).run (fun _ => loaded)
            { bench with
              failingRenames := renames
              failingDisconnects := disconnects
              failingLinkRules := linkRules
              failingControls := controls } = (.ok report', after') ∧
          after'.calls = after.calls := by
  obtain ⟨⟨generated, listed, settles⟩, _, reached⟩ := run_begin_eq_ok_iff.mp finished
  have calls : after.calls = bench.calls ++ (traceToSettle options loaded bench ++ traceFromSettle options bench) := by
    rw [← reached, Bench.replay_calls, completeCalls_eq generated]
  refine ⟨bench.devices.names_ordered, (planned loaded bench).names_ordered, calls, ?_⟩
  intro renames disconnects linkRules controls
  let strained : Bench :=
    { bench with
      failingRenames := renames
      failingDisconnects := disconnects
      failingLinkRules := linkRules
      failingControls := controls }
  have unspoilt : generationFailure? options strained = none := generated
  refine ⟨_, _, run_begin_eq_ok_iff.mpr ⟨⟨unspoilt, listed, settles⟩, rfl, rfl⟩, ?_⟩
  rw [Bench.replay_calls, completeCalls_eq unspoilt, calls]
  rfl

/-- The two cards on a bench where both backends have runtime files at some time, the connection manager runs, and
something fails at every turn. -/
def strained : Bench :=
  { Bench.cards.2 with
    artifacts := ⟨false, true⟩
    artifactsToCome := ⟨true, false⟩
    managerRuns := true
    units := ["netplan-wpa@wlan0.service"]
    failingRenames := ["eth0"]
    failingDisconnects := ["eth1"]
    failingLinkRules := ["eth1"]
    failingControls := [(.networkd, .stop), (.networkManager, .start)] }

theorem calls_of_finished_strained :
    ∃ report after, (begin {}).run (fun _ => .ok Bench.cards.1) strained = (.ok report, after) ∧
      after.calls =
        [.generate, .backend .networkd .stop ["netplan-wpa@*.service"] false, .managerRunning, .disconnect "eth0",
          .disconnect "eth1", .backend .networkManager .stop [] false, .linkRules "eth0", .linkRules "eth1",
          .rename "eth0" "lan0", .rename "eth1" "eth0", .settle,
          .backend .networkd .start ["netplan-wpa@wlan0.service"] false, .backend .networkManager .start [] false] := by
  have finished : (begin {}).run (fun _ => .ok Bench.cards.1) strained = _ :=
    run_begin_eq_ok_iff.mpr ⟨by decide, rfl, rfl⟩
  obtain ⟨_, _, calls, _⟩ := calls_of_finished finished
  exact ⟨_, _, finished, calls.trans (by decide)⟩

end Relink.Pass
