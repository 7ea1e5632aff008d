import Relink.Proofs.Pass.Phases

/-! A whole pass on a bench: the calls it makes from its beginning on, and what it comes to. The outcome is told
from the bench at the beginning, though each phase looks at the bench that the earlier ones left. -/

namespace Relink.Pass

variable {pass : Pass} {load : Bench → Except Failure Declared} {loaded : Except Failure Declared}
variable {options : Options} {bench : Bench}

/-- The backends that a pass restarts: those with runtime files before or after its generation. -/
def restarts (options : Options) (bench : Bench) : Services :=
  Services.toRestart bench.artifacts (bench.replay (generateCalls options)).artifacts

def openingCalls (options : Options) (bench : Bench) : CallLog :=
  generateCalls options ++
    ((stopNetworkdCalls options.sync (restarts options bench) ++
        stopManagerCalls options.sync (restarts options bench) bench.devices.names bench.managerRuns) ++
      bench.devices.names.map .linkRules)

/-- The calls of a pass up to the one in which it waits for the devices. -/
def settlingCalls (options : Options) (loaded : Except Failure Declared) (bench : Bench) : CallLog :=
  openingCalls options bench ++ (renameCalls loaded bench bench.devices.names ++ [.settle])

def completeCalls (options : Options) (loaded : Except Failure Declared) (bench : Bench) : CallLog :=
  openingCalls options bench ++
    ((renameCalls loaded bench bench.devices.names ++ [.settle]) ++
      startCalls options.sync (restarts options bench) bench.units)

/-- The report of a pass that reaches its end. A configuration that cannot be loaded is reported before what
follows. -/
def completeReport (options : Options) (loaded : Except Failure Declared) (bench : Bench) : Report :=
  let opened : Report :=
    Report.noting ⟨restarts options bench, bench.devices.names, ∅, []⟩ bench (openingCalls options bench)
  (opened.recordResult .rename declaredItem (loaded.map fun _ => ())).noting
    (bench.replay (openingCalls options bench))
    ((renameCalls loaded bench bench.devices.names ++ [.settle]) ++
      startCalls options.sync (restarts options bench) bench.units)

theorem run_step (load : Bench → Except Failure Declared) (undone : pass.phase ≠ .done) :
    pass.run load bench =
      match pass.step load bench with
      | (.error failure, _, after) => (.error failure, after)
      | (.ok _, next, after) => next.run load after := by
  have ahead : pass.phase.onward = pass.phase :: pass.phase.next.onward := by
    revert undone
    generalize pass.phase = phase
    cases phase <;> decide
  rw [show pass.run load bench = runPhases load pass.phase.onward pass bench from rfl, ahead, runPhases]
  rcases stepped : pass.step load bench with ⟨result, next, after⟩
  cases result with
  | error failure => rfl
  | ok phase =>
    have moved : (pass.step load bench).2.1.phase = pass.phase.next := (step_ok (by rw [stepped])).2
    rw [stepped] at moved
    exact congrArg (fun phase : Phase => runPhases load phase.onward next after) moved.symm

theorem run_snapshotBefore (here : pass.phase = .snapshotBefore) :
    pass.run load bench = Pass.run load { pass with phase := .generate, before := bench.artifacts } bench := by
  rw [run_step load (by simp [here]), step_snapshotBefore here]

theorem run_generate (here : pass.phase = .generate) :
    pass.run load bench =
      match generationFailure? pass.options bench with
      | some failure => (.error failure, bench.replay (generateCalls pass.options))
      | none => Pass.run load { pass with phase := .decide } (bench.replay (generateCalls pass.options)) := by
  rw [run_step load (by simp [here]), step_generate here]
  cases generationFailure? pass.options bench <;> rfl

theorem run_decide (here : pass.phase = .decide) :
    pass.run load bench =
      if bench.enumerationFails then (.error (.enumeration (.described Bench.injected)), bench)
      else
        Pass.run load
          { pass with
            phase := .stop
            report :=
              { pass.report with
                restarts := Services.toRestart pass.before bench.artifacts
                devices := bench.devices.names } } bench := by
  rw [run_step load (by simp [here]), step_decide here]
  cases bench.enumerationFails <;> rfl

theorem run_working (here : pass.phase ∈ [.stop, .linkRules, .start]) :
    pass.run load bench =
      Pass.run load
        { pass with
          phase := pass.phase.next
          report := pass.report.noting bench (pass.nextCalls (load bench) bench) }
        (bench.replay (pass.nextCalls (load bench) bench)) := by
  have undone : pass.phase ≠ .done := by
    intro done
    simp [done] at here
  rw [run_step load undone, step_noting (.inl here)]

theorem run_rename (here : pass.phase = .rename) :
    pass.run (fun _ => loaded) bench =
      Pass.run (fun _ => loaded)
        { pass with
          phase := .settle
          report :=
            (pass.report.recordResult .rename declaredItem (loaded.map fun _ => ())).noting bench
              (renameCalls loaded bench pass.report.devices) }
        (bench.replay (renameCalls loaded bench pass.report.devices)) := by
  rw [run_step _ (by simp [here])]
  cases loaded with
  | ok declared =>
    rw [step_noting (.inr ⟨here, declared, rfl⟩)]
    simp only [nextCalls, here]
    rfl
  | error failure =>
    rw [step_rename_of_error here rfl]
    simp [renameCalls, Except.map, Report.recordResult]

theorem run_settle (here : pass.phase = .settle) :
    pass.run load bench =
      if bench.settleFails then (.error (.settle "timeout waiting for udev queue"), bench.replay [.settle])
      else Pass.run load { pass with phase := .start } (bench.replay [.settle]) := by
  rw [run_step load (by simp [here]), step_settle here]
  cases bench.settleFails <;> rfl

theorem run_done (here : pass.phase = .done) : pass.run load bench = (.ok pass.report, bench) := by
  show runPhases load pass.phase.onward pass bench = _
  rw [here]
  rfl

/-- From its decision on, a pass comes to its renames whatever fails. -/
theorem run_stop (here : pass.phase = .stop) :
    let calls := (stopNetworkdCalls pass.options.sync pass.report.restarts ++
      stopManagerCalls pass.options.sync pass.report.restarts pass.report.devices bench.managerRuns) ++
        pass.report.devices.map .linkRules
    pass.run load bench =
      Pass.run load { pass with phase := .rename, report := pass.report.noting bench calls } (bench.replay calls) := by
  intro calls
  rw [run_working (by simp [here]), run_working (by simp [here, Phase.next])]
  simp only [nextCalls, here, Phase.next, calls, Report.noting_append, Bench.replay_append, Report.noting_devices]

/-- From its renames on, only the wait for the devices can end a pass. -/
theorem run_closing (here : pass.phase = .rename) :
    let calls := renameCalls loaded bench pass.report.devices ++ [.settle]
    let starts := startCalls pass.options.sync pass.report.restarts bench.units
    pass.run (fun _ => loaded) bench =
      if bench.settleFails then (.error (.settle "timeout waiting for udev queue"), bench.replay calls)
      else
        (.ok ((pass.report.recordResult .rename declaredItem (loaded.map fun _ => ())).noting bench (calls ++ starts)),
          bench.replay (calls ++ starts)) := by
  intro calls starts
  have waited (report : Report) (now : Bench) : report.noting now [.settle] = report := by
    refine Report.noting_of_unreported ?_
    simp [Bench.reported?]
  rw [run_rename here, run_settle rfl, Bench.settleFails_replay, ← Bench.replay_append]
  cases fails : bench.settleFails with
  | true => rfl
  | false =>
    rw [run_working (by simp), run_done rfl]
    simp only [nextCalls, Report.noting_append, Bench.replay_append, waited, calls, starts,
      Report.noting_restarts, Report.recordResult_restarts, Bench.units_replay]

theorem openingCalls_spare (device newName : String) : .rename device newName ∉ openingCalls options bench := by
  simp [openingCalls, generateCalls_spare, stopNetworkdCalls_spare, stopManagerCalls_spare]

theorem renameCalls_replay_opening (options : Options) (loaded : Except Failure Declared) (devices : List String) :
    renameCalls loaded (bench.replay (openingCalls options bench)) devices = renameCalls loaded bench devices := by
  have kept : (bench.replay (openingCalls options bench)).devices = bench.devices :=
    Bench.replay_devices_of_no_rename openingCalls_spare
  simp only [renameCalls, Bench.inventory, kept, Bench.enumerationFails_replay]

/-- A pass that generates and can list the devices comes to its renames. -/
theorem run_opening (generated : generationFailure? options bench = none)
    (listed : bench.enumerationFails = false) :
    (begin options).run load bench =
      Pass.run load
        ⟨options, .rename, bench.artifacts,
          Report.noting ⟨restarts options bench, bench.devices.names, ∅, []⟩ bench (openingCalls options bench)⟩
        (bench.replay (openingCalls options bench)) := by
  have devices : (bench.replay (generateCalls options)).devices = bench.devices :=
    Bench.replay_devices_of_no_rename generateCalls_spare
  have unreported (report : Report) : report.noting bench (generateCalls options) = report := by
    refine Report.noting_of_unreported fun call member => ?_
    unfold generateCalls at member
    split at member <;> simp_all [Bench.reported?]
  rw [run_snapshotBefore rfl, run_generate rfl]
  simp only [begin, generated]
  rw [run_decide rfl, Bench.enumerationFails_replay, listed, if_neg Bool.false_ne_true, run_stop rfl]
  simp only [devices, Bench.managerRuns_replay, openingCalls, Report.noting_append, Bench.replay_append, unreported]
  rfl

@[simp] theorem generationFailure?_replay (options : Options) (bench : Bench) (calls : CallLog) :
    generationFailure? options (bench.replay calls) = generationFailure? options bench := by
  simp [generationFailure?]

/-- All that a pass can come to, as seen from its beginning. -/
theorem run_begin (options : Options) (loaded : Except Failure Declared) (bench : Bench) :
    (begin options).run (fun _ => loaded) bench =
      match generationFailure? options bench with
      | some failure => (.error failure, bench.replay (generateCalls options))
      | none =>
        if bench.enumerationFails then
          (.error (.enumeration (.described Bench.injected)), bench.replay (generateCalls options))
        else if bench.settleFails then
          (.error (.settle "timeout waiting for udev queue"), bench.replay (settlingCalls options loaded bench))
        else (.ok (completeReport options loaded bench), bench.replay (completeCalls options loaded bench)) := by
  cases generated : generationFailure? options bench with
  | some failure =>
    rw [run_snapshotBefore rfl, run_generate rfl]
    simp only [begin, generated]
  | none =>
    cases fails : bench.enumerationFails with
    | true =>
      rw [run_snapshotBefore rfl, run_generate rfl]
      simp only [begin, generated]
      rw [run_decide rfl, Bench.enumerationFails_replay, fails]
      rfl
    | false =>
      rw [run_opening generated fails, run_closing rfl]
      simp only [Report.noting_devices, Report.noting_restarts, renameCalls_replay_opening,
        Bench.settleFails_replay, Bench.units_replay, ← Bench.replay_append]
      rfl

/-- The calls that a pass adds to the log, whether it reaches its end or not. -/
def issued (options : Options) (loaded : Except Failure Declared) (bench : Bench) : CallLog :=
  ((begin options).run (fun _ => loaded) bench).2.calls.drop bench.calls.length

/-- A pass has no effect but that of its calls, and each of its renames is planned for what the device is at the
moment of the call. -/
theorem run_issued {declared : Declared} (options : Options) (bench : Bench)
    (fits : ∀ other, loaded = .ok other → other = declared) :
    ((begin options).run (fun _ => loaded) bench).2 = bench.replay (issued options loaded bench) ∧
      bench.Timely declared (issued options loaded bench) := by
  have settling : bench.Timely declared (settlingCalls options loaded bench) := by
    refine Bench.timely_append.mpr ⟨Bench.timely_of_no_rename openingCalls_spare, Bench.timely_append.mpr ⟨?_, ?_⟩⟩
    · rw [← renameCalls_replay_opening options loaded]
      cases loaded with
      | ok other =>
        rw [fits other rfl]
        exact Plan.timely_calls declared _ _
      | error failure => trivial
    · exact Bench.timely_of_no_rename (by simp)
  have complete : bench.Timely declared (completeCalls options loaded bench) := by
    rw [completeCalls, ← List.append_assoc]
    exact Bench.timely_append.mpr ⟨settling, Bench.timely_of_no_rename startCalls_spare⟩
  obtain ⟨calls, replayed, timely⟩ :
      ∃ calls, ((begin options).run (fun _ => loaded) bench).2 = bench.replay calls ∧
        bench.Timely declared calls := by
    rw [run_begin]
    cases generationFailure? options bench with
    | some failure => exact ⟨_, rfl, Bench.timely_of_no_rename generateCalls_spare⟩
    | none =>
      cases bench.enumerationFails with
      | true => exact ⟨_, rfl, Bench.timely_of_no_rename generateCalls_spare⟩
      | false =>
        cases bench.settleFails with
        | true => exact ⟨_, rfl, settling⟩
        | false => exact ⟨_, rfl, complete⟩
  have same : issued options loaded bench = calls := by
    rw [issued, replayed, Bench.replay_calls, List.drop_left]
  rw [same]
  exact ⟨replayed, timely⟩

theorem run_begin_eq_ok_iff {report : Report} {after : Bench} :
    (begin options).run (fun _ => loaded) bench = (.ok report, after) ↔
      (generationFailure? options bench = none ∧ bench.enumerationFails = false ∧ bench.settleFails = false) ∧
        completeReport options loaded bench = report ∧ bench.replay (completeCalls options loaded bench) = after := by
  rw [run_begin]
  cases generationFailure? options bench with
  | some failure => simp
  | none =>
    cases bench.enumerationFails with
    | true => simp
    | false => cases bench.settleFails <;> simp

theorem issued_of_ok {report : Report} {after : Bench}
    (finished : (begin options).run (fun _ => loaded) bench = (.ok report, after)) :
    issued options loaded bench = completeCalls options loaded bench := by
  rw [issued, finished, ← (run_begin_eq_ok_iff.mp finished).2.2, Bench.replay_calls, List.drop_left]

theorem completeReport_of_ok (options : Options) (declared : Declared) (bench : Bench) :
    completeReport options (.ok declared) bench =
      Report.noting ⟨restarts options bench, bench.devices.names, ∅, []⟩ bench
        (completeCalls options (.ok declared) bench) := by
  rw [completeCalls, Report.noting_append]
  rfl

theorem moves_completeCalls (options : Options) (loaded : Except Failure Declared) (bench : Bench) :
    bench.moves (completeCalls options loaded bench) =
      (bench.replay (openingCalls options bench)).moves (renameCalls loaded bench bench.devices.names) := by
  have settle (now : Bench) : now.moves [.settle] = [] := rfl
  simp only [completeCalls, Bench.moves_append, settle, List.append_nil, List.nil_append,
    Bench.moves_of_no_rename openingCalls_spare, Bench.moves_of_no_rename startCalls_spare]

theorem devices_completeCalls (options : Options) (loaded : Except Failure Declared) (bench : Bench) :
    (bench.replay (completeCalls options loaded bench)).devices =
      ((bench.replay (openingCalls options bench)).replay (renameCalls loaded bench bench.devices.names)).devices := by
  have settle (now : Bench) : (now.replay [.settle]).devices = now.devices := rfl
  simp only [completeCalls, Bench.replay_append, settle, Bench.replay_devices_of_no_rename startCalls_spare]

theorem rename_mem_completeCalls_iff {declared : Declared} {device newName : String} :
    .rename device newName ∈ completeCalls options (.ok declared) bench ↔
      bench.target? declared device = some newName := by
  have planned : .rename device newName ∈ completeCalls options (.ok declared) bench ↔
      .rename device newName ∈ renameCalls (.ok declared) bench bench.devices.names := by
    simp [completeCalls, openingCalls_spare, startCalls_spare]
  rw [planned, renameCalls, Plan.mem_calls_iff, Bench.get?_plan]

end Relink.Pass
