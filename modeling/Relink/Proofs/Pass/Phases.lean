import Relink.Pass
import Relink.Proofs.Renaming

/-! What each phase of a pass does on a bench: the calls it makes, and the report as their result. A phase has no
effect on the bench but that of its calls. -/

namespace Relink

namespace Report

/-- The report after calls made to a bench: the renames that succeeded are in it, and what failed. -/
def noting (report : Report) (bench : Bench) (calls : CallLog) : Report :=
  { report with
    renames := report.renames.insertAll (bench.moves calls)
    failures := report.failures ++ bench.troubles calls }

variable {report : Report} {bench : Bench}

@[simp] theorem noting_devices (calls : CallLog) : (report.noting bench calls).devices = report.devices := rfl

@[simp] theorem noting_restarts (calls : CallLog) : (report.noting bench calls).restarts = report.restarts := rfl

@[simp] theorem recordResult_devices (phase : Phase) (item : String) (result : Except Failure Unit) :
    (report.recordResult phase item result).devices = report.devices := by
  cases result <;> rfl

@[simp] theorem recordResult_restarts (phase : Phase) (item : String) (result : Except Failure Unit) :
    (report.recordResult phase item result).restarts = report.restarts := by
  cases result <;> rfl

@[simp] theorem noting_nil : report.noting bench [] = report := by
  simp [noting, Bench.moves, Bench.troubles]

theorem renames_noting (unrenamed : report.renames = ∅) (calls : CallLog) :
    (report.noting bench calls).renames = .ofList (bench.moves calls) := by
  rw [noting, unrenamed, Table.ofList_eq]

theorem noting_append (first second : CallLog) :
    report.noting bench (first ++ second) =
      (report.noting bench first).noting (bench.replay first) second := by
  simp [noting, Bench.moves_append, Bench.troubles_append, Table.insertAll_append]

theorem noting_cons (call : Call) (rest : CallLog) :
    report.noting bench (call :: rest) = (report.noting bench [call]).noting (bench.perform call) rest :=
  noting_append [call] rest

theorem noting_of_no_rename {calls : CallLog} (spared : ∀ device newName, .rename device newName ∉ calls) :
    (report.noting bench calls).renames = report.renames ∧
      (report.noting bench calls).failuresIn .rename = report.failuresIn .rename := by
  have none : (bench.troubles calls).filter (·.phase = .rename) = [] := by
    refine List.filter_eq_nil_iff.mpr fun failure member => ?_
    obtain ⟨call, listed, now, found⟩ := Bench.mem_troubles member
    have other : failure.phase ≠ .rename := by
      intro same
      obtain ⟨device, newName, rfl⟩ := (Bench.trouble?_phase found).mp same
      exact spared device newName listed
    simpa using other
  exact ⟨by simp [noting, Bench.moves_of_no_rename spared], by simp [failuresIn, noting, none]⟩

/-- All that a plan's renames add to a report is in the rename phase. -/
theorem failuresIn_noting_calls (plan : Plan) :
    (report.noting bench plan.calls).failuresIn .rename =
      report.failuresIn .rename ++ bench.troubles plan.calls := by
  have all : (bench.troubles plan.calls).filter (·.phase = .rename) = bench.troubles plan.calls := by
    refine List.filter_eq_self.mpr fun failure member => ?_
    obtain ⟨call, listed, now, found⟩ := Bench.mem_troubles member
    obtain ⟨entry, _, rfl⟩ := List.mem_map.mp listed
    simpa using (Bench.trouble?_phase found).mpr ⟨entry.1, entry.2, rfl⟩
  simp [failuresIn, noting, all]

theorem noting_singleton {call : Call} {phase : Phase} {item : String} {result : Except Failure Unit}
    (unmoved : bench.move? call = none) (named : Bench.reported? call = some (phase, item))
    (answered : bench.refusal? call = Bench.failureOf result) :
    report.noting bench [call] = report.recordResult phase item result := by
  cases result <;>
    simp [noting, Bench.moves, Bench.troubles, Bench.trouble?, unmoved, named, answered,
      Bench.failureOf, recordResult, record]

theorem noting_of_unreported {calls : CallLog} (unnamed : ∀ call ∈ calls, Bench.reported? call = none) :
    report.noting bench calls = report := by
  induction calls generalizing bench with
  | nil => exact noting_nil
  | cons call rest ih =>
    have nameless := unnamed call List.mem_cons_self
    have unmoved : bench.move? call = none := by
      cases call with
      | rename device newName => cases nameless
      | _ => rfl
    have same : report.noting bench [call] = report := by
      simp [noting, Bench.moves, Bench.troubles, Bench.trouble?, unmoved, nameless]
    rw [noting_cons, same]
    exact ih fun later member => unnamed later (List.mem_cons_of_mem call member)

end Report

namespace Pass

variable {pass : Pass} {load : Bench → Except Failure Declared} {bench : Bench} {report : Report}

def generateCalls (options : Options) : CallLog :=
  if options.runGenerate then [.generate] else []

def generationFailure? (options : Options) (bench : Bench) : Option Failure :=
  if options.runGenerate = true ∧ bench.generatorExit ≠ 0 then
    some (if options.exitOnError then .generation bench.generatorExit else .configuration generationProblem)
  else none

/-- The calls that stop the backend that brings links up by units. -/
def stopNetworkdCalls (sync : Bool) (restarts : Services) : CallLog :=
  if restarts.networkd then [.backend .networkd .stop stopUnits sync] else []

/-- The calls that stop the backend that holds connections. -/
def stopManagerCalls (sync : Bool) (restarts : Services) (devices : List String) (running : Bool) : CallLog :=
  if restarts.networkManager then
    .managerRunning ::
      if running then devices.map .disconnect ++ [.backend .networkManager .stop [] sync] else []
  else []

def startCalls (sync : Bool) (restarts : Services) (units : List String) : CallLog :=
  (if restarts.networkd then [.backend .networkd .start units sync] else []) ++
    if restarts.networkManager then [.backend .networkManager .start [] sync] else []

/-- The calls of the rename phase. Without a declared configuration there are none. -/
def renameCalls (loaded : Except Failure Declared) (bench : Bench) (devices : List String) : CallLog :=
  match loaded with
  | .ok declared => (Plan.ofInterfaces declared bench.inventory devices).calls
  | .error _ => []

def nextCalls (loaded : Except Failure Declared) (pass : Pass) (bench : Bench) : CallLog :=
  match pass.phase with
  | .generate => generateCalls pass.options
  | .stop =>
    stopNetworkdCalls pass.options.sync pass.report.restarts ++
      stopManagerCalls pass.options.sync pass.report.restarts pass.report.devices bench.managerRuns
  | .linkRules => pass.report.devices.map .linkRules
  | .rename => renameCalls loaded bench pass.report.devices
  | .settle => [.settle]
  | .start => startCalls pass.options.sync pass.report.restarts bench.units
  | .snapshotBefore | .decide | .done => []

section Spare

variable {options : Options} {sync running : Bool} {restarts : Services} {devices units : List String}

theorem generateCalls_spare (device newName : String) : .rename device newName ∉ generateCalls options := by
  unfold generateCalls
  split <;> simp

theorem stopNetworkdCalls_spare (device newName : String) :
    .rename device newName ∉ stopNetworkdCalls sync restarts := by
  unfold stopNetworkdCalls
  split <;> simp

theorem stopManagerCalls_spare (device newName : String) :
    .rename device newName ∉ stopManagerCalls sync restarts devices running := by
  unfold stopManagerCalls
  split
  · split <;> simp
  · simp

theorem startCalls_spare (device newName : String) : .rename device newName ∉ startCalls sync restarts units := by
  unfold startCalls
  split <;> split <;> simp

end Spare

theorem generate_eq (options : Options) (bench : Bench) :
    generate options bench =
      ((match generationFailure? options bench with
        | some failure => .error failure
        | none => .ok ()), bench.replay (generateCalls options)) := by
  cases wanted : options.runGenerate with
  | false => simp [generate, generationFailure?, generateCalls, wanted]
  | true =>
    by_cases success : bench.generatorExit = 0
    · simp [generate, Host.generate, Bench.generate, Bench.log, Bench.perform, generationFailure?,
        generateCalls, wanted, success]
    · cases fatal : options.exitOnError <;>
        simp [generate, Host.generate, Bench.generate, Bench.log, Bench.perform, generationFailure?,
          generateCalls, wanted, success, fatal]

theorem control_stop (sync : Bool) (backend : Backend) (units : List String) (report : Report) (bench : Bench) :
    control sync .stop backend .stop units report bench =
      (report.noting bench [.backend backend .stop units sync],
        bench.perform (.backend backend .stop units sync)) := by
  rw [Report.noting_singleton rfl rfl rfl]
  rfl

theorem control_start (sync : Bool) (backend : Backend) (units : List String) (report : Report) (bench : Bench) :
    control sync .start backend .start units report bench =
      (report.noting bench [.backend backend .start units sync],
        bench.perform (.backend backend .start units sync)) := by
  rw [Report.noting_singleton rfl rfl rfl]
  rfl

theorem disconnectAll_eq (devices : List String) (bench : Bench) :
    disconnectAll devices bench = bench.replay (devices.map .disconnect) := by
  induction devices generalizing bench with
  | nil => rfl
  | cons device rest ih => exact ih (bench.perform (.disconnect device))

theorem stopNetworkd_eq (sync : Bool) (report : Report) (bench : Bench) :
    stopNetworkd sync report bench =
      (report.noting bench (stopNetworkdCalls sync report.restarts),
        bench.replay (stopNetworkdCalls sync report.restarts)) := by
  cases chosen : report.restarts.networkd with
  | false => simp [stopNetworkd, stopNetworkdCalls, chosen]
  | true => simp [stopNetworkd, stopNetworkdCalls, chosen, control_stop]

theorem stopManager_eq (sync : Bool) (report : Report) (bench : Bench) :
    stopManager sync report bench =
      (report.noting bench (stopManagerCalls sync report.restarts report.devices bench.managerRuns),
        bench.replay (stopManagerCalls sync report.restarts report.devices bench.managerRuns)) := by
  cases chosen : report.restarts.networkManager with
  | false => simp [stopManager, stopManagerCalls, chosen]
  | true =>
    have asked : report.noting bench [.managerRunning] = report := by
      refine Report.noting_of_unreported ?_
      simp [Bench.reported?]
    have released (bench : Bench) :
        report.noting bench (report.devices.map .disconnect) = report := by
      refine Report.noting_of_unreported ?_
      simp [Bench.reported?]
    cases running : bench.managerRuns with
    | false =>
      simp only [stopManager, stopManagerCalls, chosen, if_true, Bool.false_eq_true, if_false, asked]
      simp only [Host.managerRunning, running]
      rfl
    | true =>
      have calls : stopManagerCalls sync report.restarts report.devices true =
          .managerRunning ::
            (report.devices.map .disconnect ++ [.backend .networkManager .stop [] sync]) := by
        simp [stopManagerCalls, chosen]
      rw [calls, Report.noting_cons, asked, Report.noting_append, released, Bench.replay_cons,
        Bench.replay_append]
      simp only [stopManager, chosen, if_true, Host.managerRunning, running, control_stop, disconnectAll_eq]
      rfl

theorem applyLinkRules_eq (devices : List String) (report : Report) (bench : Bench) :
    applyLinkRules devices report bench =
      (report.noting bench (devices.map .linkRules), bench.replay (devices.map .linkRules)) := by
  induction devices generalizing report bench with
  | nil => simp [applyLinkRules]
  | cons device rest ih =>
    rw [List.map_cons, Report.noting_cons, Report.noting_singleton rfl rfl rfl]
    exact ih (report.recordResult .linkRules device (bench.applyLinkRules device).1)
      (bench.perform (.linkRules device))

theorem applyRenames_eq (entries : List (String × String)) (report : Report) (bench : Bench) :
    applyRenames entries report bench =
      (report.noting bench (entries.map fun entry => .rename entry.1 entry.2),
        bench.replay (entries.map fun entry => .rename entry.1 entry.2)) := by
  induction entries generalizing report bench with
  | nil => simp [applyRenames]
  | cons entry rest ih =>
    obtain ⟨device, newName⟩ := entry
    rw [List.map_cons, Report.noting_cons, Bench.replay_cons, ← ih]
    rcases Bench.rename_cases device newName bench with ⟨reason, refused⟩ | ⟨record, _, _, moved⟩
    · simp [applyRenames, Host.rename, refused, Report.noting, Report.record, Bench.moves, Bench.move?,
        Bench.troubles, Bench.trouble?, Bench.reported?, Bench.refusal?, Bench.failureOf, Bench.perform]
    · simp [applyRenames, Host.rename, moved, Report.noting, Bench.moves, Bench.move?,
        Bench.troubles, Bench.trouble?, Bench.reported?, Bench.refusal?, Bench.failureOf, Bench.perform]

theorem rename_eq (declared : Declared) (report : Report) (bench : Bench) :
    rename (.ok declared) report bench =
      (report.noting bench (renameCalls (.ok declared) bench report.devices),
        bench.replay (renameCalls (.ok declared) bench report.devices)) :=
  applyRenames_eq (Plan.ofInterfaces declared bench.inventory report.devices).entries report bench

theorem startAll_eq (sync : Bool) (report : Report) (bench : Bench) :
    startAll sync report bench =
      (report.noting bench (startCalls sync report.restarts bench.units),
        bench.replay (startCalls sync report.restarts bench.units)) := by
  cases second : report.restarts.networkManager with
  | false =>
    cases first : report.restarts.networkd <;>
      simp [startAll, startCalls, first, second, control_start, Host.auxiliaryUnits]
  | true =>
    cases first : report.restarts.networkd with
    | false => simp [startAll, startCalls, first, second, control_start]
    | true =>
      rw [startCalls, first, second, if_pos rfl, if_pos rfl, Report.noting_append, Bench.replay_append]
      simp [startAll, first, second, control_start, Host.auxiliaryUnits]

theorem step_snapshotBefore (here : pass.phase = .snapshotBefore) :
    pass.step load bench =
      (.ok .generate, { pass with phase := .generate, before := bench.artifacts }, bench) := by
  simp only [step, here]
  simp [advance, presence, Host.hasArtifacts, Services.has, Phase.next]

theorem step_generate (here : pass.phase = .generate) :
    pass.step load bench =
      match generationFailure? pass.options bench with
      | some failure => (.error failure, pass, bench.replay (generateCalls pass.options))
      | none => (.ok .decide, { pass with phase := .decide }, bench.replay (generateCalls pass.options)) := by
  simp only [step, here, generate_eq]
  cases generationFailure? pass.options bench <;> simp [attempt, advance, here, Phase.next]

theorem step_decide (here : pass.phase = .decide) :
    pass.step load bench =
      if bench.enumerationFails then
        (.error (.enumeration (.described Bench.injected)),
          { pass with report :=
            { pass.report with restarts := Services.toRestart pass.before bench.artifacts } }, bench)
      else
        (.ok .stop,
          { pass with
            phase := .stop
            report :=
              { pass.report with
                restarts := Services.toRestart pass.before bench.artifacts
                devices := bench.devices.names } }, bench) := by
  have present : presence bench = bench.artifacts := by
    simp [presence, Host.hasArtifacts, Services.has]
  simp only [step, here, present]
  cases fails : bench.enumerationFails <;>
    simp [Host.inventory, Bench.inventory, fails, advance, here, Phase.next]

theorem step_settle (here : pass.phase = .settle) :
    pass.step load bench =
      (if bench.settleFails then .error (.settle "timeout waiting for udev queue") else .ok .start,
        if bench.settleFails then pass else { pass with phase := .start }, bench.replay [.settle]) := by
  simp only [step, here, Host.settle, Bench.settle]
  cases fails : bench.settleFails <;>
    simp [attempt, advance, here, Phase.next, Bench.perform, Bench.settle, Bench.log]

theorem step_done (here : pass.phase = .done) : pass.step load bench = (.ok .done, pass, bench) := by
  obtain ⟨options, phase, before, report⟩ := pass
  subst here
  rfl

/-- A phase whose failures do not end the pass notes what its calls came to, and the pass moves on. -/
theorem step_noting
    (working : pass.phase ∈ [.stop, .linkRules, .start] ∨
      pass.phase = .rename ∧ ∃ declared, load bench = .ok declared) :
    pass.step load bench =
      (.ok pass.phase.next,
        { pass with
          phase := pass.phase.next
          report := pass.report.noting bench (pass.nextCalls (load bench) bench) },
        bench.replay (pass.nextCalls (load bench) bench)) := by
  rcases working with member | ⟨here, declared, loaded⟩
  · simp only [List.mem_cons, List.not_mem_nil, or_false] at member
    rcases member with here | here | here
    · simp only [step, nextCalls, here, stopNetworkd_eq, stopManager_eq]
      simp only [Report.noting_append, Bench.replay_append, Report.noting_restarts, Report.noting_devices,
        Bench.managerRuns_replay, advance, here]
    · simp only [step, nextCalls, here, applyLinkRules_eq, advance]
    · simp only [step, nextCalls, here, startAll_eq, advance]
  · simp only [step, nextCalls, here, loaded, rename_eq, advance]

theorem step_rename_of_error {failure : Failure} (here : pass.phase = .rename)
    (unloaded : load bench = .error failure) :
    pass.step load bench =
      (.ok .settle,
        { pass with phase := .settle, report := pass.report.record .rename declaredItem failure },
        bench) := by
  simp only [step, here, unloaded, rename, advance]
  rfl

/-- A step does nothing to the bench but make its calls. -/
theorem step_bench (load : Bench → Except Failure Declared) (pass : Pass) (bench : Bench) :
    (pass.step load bench).2.2 = bench.replay (pass.nextCalls (load bench) bench) := by
  cases here : pass.phase with
  | snapshotBefore => simp [step_snapshotBefore here, nextCalls, here]
  | generate =>
    rw [step_generate here]
    cases generationFailure? pass.options bench <;> simp [nextCalls, here]
  | decide =>
    rw [step_decide here]
    cases bench.enumerationFails <;> simp [nextCalls, here]
  | stop | linkRules | start => rw [step_noting (.inl (by simp [here]))]
  | rename =>
    cases loaded : load bench with
    | ok declared => rw [step_noting (.inr ⟨here, declared, loaded⟩), loaded]
    | error failure => simp [step_rename_of_error here loaded, nextCalls, here, renameCalls]
  | settle => simp [step_settle here, nextCalls, here]
  | done => simp [step_done here, nextCalls, here]

/-- Only the rename phase calls for renames, and only for those that it plans. -/
theorem rename_mem_nextCalls {loaded : Except Failure Declared} {device newName : String}
    (member : .rename device newName ∈ pass.nextCalls loaded bench) :
    pass.phase = .rename ∧ ∃ declared, loaded = .ok declared ∧
      pass.nextCalls loaded bench = (Plan.ofInterfaces declared bench.inventory pass.report.devices).calls := by
  cases here : pass.phase with
  | rename =>
    cases loaded with
    | ok declared => exact ⟨rfl, declared, rfl, by simp [nextCalls, here, renameCalls]⟩
    | error failure => simp [nextCalls, here, renameCalls] at member
  | generate => simp [nextCalls, here, generateCalls_spare] at member
  | stop => simp [nextCalls, here, stopNetworkdCalls_spare, stopManagerCalls_spare] at member
  | start => simp [nextCalls, here, startCalls_spare] at member
  | snapshotBefore | decide | linkRules | settle | done => simp [nextCalls, here] at member

/-- A step that fails leaves the pass in its phase, with no more than another decision on restarts. -/
theorem step_error {failure : Failure} (failed : (pass.step load bench).1 = .error failure) :
    pass.phase ∈ [.generate, .decide, .settle] ∧ ∃ restarts,
      (pass.step load bench).2.1 = { pass with report := { pass.report with restarts := restarts } } := by
  cases here : pass.phase with
  | generate =>
    rw [step_generate here] at failed ⊢
    cases fatal : generationFailure? pass.options bench with
    | none => simp [fatal] at failed
    | some cause => exact ⟨by decide, pass.report.restarts, by rw [← here]⟩
  | decide =>
    rw [step_decide here] at failed ⊢
    cases fails : bench.enumerationFails with
    | false => simp [fails] at failed
    | true => exact ⟨by decide, Services.toRestart pass.before bench.artifacts, by rw [← here]; rfl⟩
  | settle =>
    rw [step_settle here] at failed ⊢
    cases fails : bench.settleFails with
    | false => simp [fails] at failed
    | true => exact ⟨by decide, pass.report.restarts, by rw [← here]; rfl⟩
  | snapshotBefore => simp [step_snapshotBefore here] at failed
  | stop | linkRules | start =>
    rw [step_noting (.inl (by simp [here]))] at failed
    cases failed
  | rename =>
    cases loaded : load bench with
    | ok declared => simp [step_noting (.inr ⟨here, declared, loaded⟩)] at failed
    | error cause => simp [step_rename_of_error here loaded] at failed
  | done => simp [step_done here] at failed

theorem step_ok {phase : Phase} (succeeded : (pass.step load bench).1 = .ok phase) :
    phase = pass.phase.next ∧ (pass.step load bench).2.1.phase = pass.phase.next := by
  cases here : pass.phase with
  | generate =>
    rw [step_generate here] at succeeded ⊢
    cases fatal : generationFailure? pass.options bench with
    | none => simp_all [Phase.next]
    | some cause => simp [fatal] at succeeded
  | decide =>
    rw [step_decide here] at succeeded ⊢
    cases fails : bench.enumerationFails <;> simp_all [Phase.next]
  | settle =>
    rw [step_settle here] at succeeded ⊢
    cases fails : bench.settleFails <;> simp_all [Phase.next]
  | snapshotBefore => simp_all [step_snapshotBefore here, Phase.next]
  | stop | linkRules | start =>
    rw [step_noting (.inl (by simp [here]))] at succeeded ⊢
    simp_all
  | rename =>
    cases loaded : load bench with
    | ok declared =>
      rw [step_noting (.inr ⟨here, declared, loaded⟩)] at succeeded ⊢
      simp_all
    | error cause => simp_all [step_rename_of_error here loaded, Phase.next]
  | done => simp_all [step_done here, Phase.next]

/-- Only the decision changes the devices in the report. -/
theorem step_devices (load : Bench → Except Failure Declared) (bench : Bench) (decided : pass.phase ≠ .decide) :
    (pass.step load bench).2.1.report.devices = pass.report.devices := by
  cases here : pass.phase with
  | decide => exact absurd here decided
  | generate =>
    rw [step_generate here]
    cases generationFailure? pass.options bench <;> rfl
  | settle =>
    rw [step_settle here]
    cases bench.settleFails <;> rfl
  | snapshotBefore => rw [step_snapshotBefore here]
  | stop | linkRules | start => rw [step_noting (.inl (by simp [here])), Report.noting_devices]
  | rename =>
    cases loaded : load bench with
    | ok declared => simp [step_noting (.inr ⟨here, declared, loaded⟩)]
    | error cause => simp [step_rename_of_error here loaded, Report.record]
  | done => rw [step_done here]

/-- Only the rename phase reports renames, and failures of its own. -/
theorem step_renames (load : Bench → Except Failure Declared) (bench : Bench) (other : pass.phase ≠ .rename) :
    (pass.step load bench).2.1.report.renames = pass.report.renames ∧
      (pass.step load bench).2.1.report.failuresIn .rename = pass.report.failuresIn .rename := by
  have noted (working : pass.phase ∈ [.stop, .linkRules, .start]) :
      (pass.step load bench).2.1.report.renames = pass.report.renames ∧
        (pass.step load bench).2.1.report.failuresIn .rename = pass.report.failuresIn .rename := by
    have spared : ∀ device newName, .rename device newName ∉ pass.nextCalls (load bench) bench :=
      fun device newName member => other (rename_mem_nextCalls member).1
    rw [step_noting (.inl working)]
    exact Report.noting_of_no_rename spared
  cases here : pass.phase with
  | rename => exact absurd here other
  | stop | linkRules | start => exact noted (by simp [here])
  | generate =>
    rw [step_generate here]
    cases generationFailure? pass.options bench <;> exact ⟨rfl, rfl⟩
  | decide =>
    rw [step_decide here]
    cases bench.enumerationFails <;> exact ⟨rfl, rfl⟩
  | settle =>
    rw [step_settle here]
    cases bench.settleFails <;> exact ⟨rfl, rfl⟩
  | snapshotBefore =>
    rw [step_snapshotBefore here]
    exact ⟨rfl, rfl⟩
  | done =>
    rw [step_done here]
    exact ⟨rfl, rfl⟩

end Pass

end Relink
