import Relink.Cli
import Relink.Proofs.Pass.Trace

/-! How a pass ends. A generation that fails, devices that cannot be listed and devices that do not settle end it, the
earliest of them counting; nothing else does, and the exit status follows from the ending alone. -/

namespace Relink

def Cli.statusOf : Except Failure Report → Nat
  | .ok _ => 0
  | .error failure => failure.exitStatus

theorem Cli.statusOf_eq_zero_iff (result : Except Failure Report) :
    Cli.statusOf result = 0 ↔ ∃ report, result = .ok report := by
  cases result with
  | ok report => simp [statusOf]
  | error failure => cases failure <;> simp [statusOf, Failure.exitStatus, Failure.generationStatus]

theorem Cli.statusOf_eq_78_iff (result : Except Failure Report) :
    Cli.statusOf result = 78 ↔ ∃ exitCode, result = .error (.generation exitCode) := by
  cases result with
  | ok report => simp [statusOf]
  | error failure => cases failure <;> simp [statusOf, Failure.exitStatus, Failure.generationStatus]

theorem Cli.statusOf_eq_one_iff (result : Except Failure Report) :
    Cli.statusOf result = 1 ↔ (∃ failure, result = .error failure) ∧ Cli.statusOf result ≠ 78 := by
  cases result with
  | ok report => simp [statusOf]
  | error failure => cases failure <;> simp [statusOf, Failure.exitStatus, Failure.generationStatus]

/-- The program ends with the status of its pass, whatever the pass did on the way. -/
theorem Cli.status_perform_apply {machine : Machine} {config : String} {settings : Settings}
    (loaded : Settings.load machine.files machine.here config = .ok settings) (debug : Bool) (options : Options) :
    (Cli.perform machine (.apply config debug options)).status =
      Cli.statusOf ((Pass.begin options).run Station.load ⟨machine, settings⟩).1 := by
  simp only [Cli.perform, loaded]
  rcases (Pass.begin options).run Station.load ⟨machine, settings⟩ with ⟨result, station⟩
  cases result <;> rfl

namespace Pass

variable {options : Options} {loaded : Except Failure Declared} {bench : Bench}

def GenerationFails (options : Options) (bench : Bench) : Prop :=
  options.runGenerate = true ∧ bench.generatorExit ≠ 0

theorem generationFailure?_eq_some (fails : GenerationFails options bench) :
    generationFailure? options bench =
      some (if options.exitOnError then .generation bench.generatorExit
        else .configuration "the configuration could not be generated") :=
  if_pos fails

theorem generationFailure?_eq_none (succeeds : ¬GenerationFails options bench) :
    generationFailure? options bench = none :=
  if_neg succeeds

/-- Without the generation a pass has changed nothing; a generation that fails leaves the runtime files too. -/
theorem run_of_generationFails (loaded : Except Failure Declared) (fails : GenerationFails options bench) :
    (begin options).run (fun _ => loaded) bench =
      (.error (if options.exitOnError then .generation bench.generatorExit
        else .configuration "the configuration could not be generated"), bench.log .generate) := by
  have calls : bench.replay (generateCalls options) = bench.log .generate := by
    simp [generateCalls, fails.1, Bench.perform, Bench.generate, Bench.log, fails.2]
  rw [run_begin, generationFailure?_eq_some fails, calls]

theorem run_of_enumerationFails (loaded : Except Failure Declared) (succeeds : ¬GenerationFails options bench)
    (unlisted : bench.enumerationFails = true) :
    (begin options).run (fun _ => loaded) bench =
      (.error (.enumeration (.described "injected failure")),
        bench.replay (if options.runGenerate then [.generate] else [])) := by
  rw [run_begin, generationFailure?_eq_none succeeds, if_pos unlisted]
  rfl

theorem run_of_settleFails (loaded : Except Failure Declared) (succeeds : ¬GenerationFails options bench)
    (listed : bench.enumerationFails = false) (unsettled : bench.settleFails = true) :
    (begin options).run (fun _ => loaded) bench =
      (.error (.settle "timeout waiting for udev queue"), bench.replay (traceToSettle options loaded bench)) := by
  have generated := generationFailure?_eq_none succeeds
  rw [run_begin, generated, listed, ← settlingCalls_eq generated]
  simp [unsettled]

theorem run_of_succeeds (loaded : Except Failure Declared) (succeeds : ¬GenerationFails options bench)
    (listed : bench.enumerationFails = false) (settles : bench.settleFails = false) :
    ∃ report after, (begin options).run (fun _ => loaded) bench = (.ok report, after) :=
  ⟨_, _, run_begin_eq_ok_iff.mpr ⟨⟨generationFailure?_eq_none succeeds, listed, settles⟩, rfl, rfl⟩⟩

theorem start_not_mem_traceToSettle (backend : Backend) (units : List String) (sync : Bool) :
    .backend backend .start units sync ∉ traceToSettle options loaded bench := by
  unfold traceToSettle
  simp only [List.mem_append, List.mem_map, List.mem_singleton, reduceCtorEq, and_false, exists_false, or_false, not_or]
  refine ⟨⟨?_, ?_⟩, ?_⟩
  · split <;> simp
  · split <;> simp
  · split
    · split <;> simp
    · simp

/-- When a pass fails, and with what. Of several causes the earliest counts. -/
theorem run_eq_error_iff (options : Options) (loaded : Except Failure Declared) (bench : Bench) (failure : Failure) :
    ((begin options).run (fun _ => loaded) bench).1 = .error failure ↔
      (GenerationFails options bench ∧
        failure = if options.exitOnError then .generation bench.generatorExit
          else .configuration "the configuration could not be generated") ∨
      (¬GenerationFails options bench ∧ bench.enumerationFails = true ∧
        failure = .enumeration (.described "injected failure")) ∨
      (¬GenerationFails options bench ∧ bench.enumerationFails = false ∧ bench.settleFails = true ∧
        failure = .settle "timeout waiting for udev queue") := by
  by_cases fails : GenerationFails options bench
  · rw [run_of_generationFails loaded fails]
    simp only [fails, Except.error.injEq, not_true, true_and, false_and, or_false]
    exact eq_comm
  · cases unlisted : bench.enumerationFails with
    | true =>
      rw [run_of_enumerationFails loaded fails unlisted]
      simp only [fails, Except.error.injEq, not_false_eq_true, true_and, false_and, false_or, or_false, reduceCtorEq]
      exact eq_comm
    | false =>
      cases unsettled : bench.settleFails with
      | true =>
        rw [run_of_settleFails loaded fails unlisted unsettled]
        simp only [fails, Except.error.injEq, not_false_eq_true, true_and, false_and, false_or, reduceCtorEq]
        exact eq_comm
      | false =>
        obtain ⟨report, after, finished⟩ := run_of_succeeds loaded fails unlisted unsettled
        simp [finished, fails]

/-- Only a failed generation ends a pass with a failure of that kind, and only where the options want it told. -/
theorem exists_run_eq_generation_iff (options : Options) (loaded : Except Failure Declared) (bench : Bench) :
    (∃ exitCode, ((begin options).run (fun _ => loaded) bench).1 = .error (.generation exitCode)) ↔
      GenerationFails options bench ∧ options.exitOnError = true := by
  simp only [run_eq_error_iff]
  cases options.exitOnError <;> simp

/-- A pass fails exactly if it generates and the generation fails, or else the devices cannot be listed, or else they
do not settle. What it has done by then is a call or none, or all but the starts. The exit status tells a failed
generation that shall set it from the other failures, and those from a pass that reached its end. -/
theorem run_fails_iff (options : Options) (loaded : Except Failure Declared) (bench : Bench) :
    let ended := (begin options).run (fun _ => loaded) bench
    (∀ failure, ended.1 = .error failure ↔
      (GenerationFails options bench ∧
        failure = if options.exitOnError then .generation bench.generatorExit
          else .configuration "the configuration could not be generated") ∨
      (¬GenerationFails options bench ∧ bench.enumerationFails = true ∧
        failure = .enumeration (.described "injected failure")) ∨
      (¬GenerationFails options bench ∧ bench.enumerationFails = false ∧ bench.settleFails = true ∧
        failure = .settle "timeout waiting for udev queue")) ∧
    (GenerationFails options bench →
      ended.2.calls = bench.calls ++ [.generate] ∧ ended.2.devices = bench.devices ∧
        ended.2.artifacts = bench.artifacts) ∧
    (¬GenerationFails options bench → bench.enumerationFails = true →
      ended.2.calls = bench.calls ++ (if options.runGenerate then [.generate] else []) ∧
        ended.2.devices = bench.devices) ∧
    (¬GenerationFails options bench → bench.enumerationFails = false → bench.settleFails = true →
      ended.2.calls = bench.calls ++ traceToSettle options loaded bench ∧
        ∀ backend units sync, .backend backend .start units sync ∉ traceToSettle options loaded bench) ∧
    (Cli.statusOf ended.1 = 78 ↔ GenerationFails options bench ∧ options.exitOnError = true) ∧
    (Cli.statusOf ended.1 = 1 ↔
      (∃ failure, ended.1 = .error failure) ∧ ¬(GenerationFails options bench ∧ options.exitOnError = true)) ∧
    (Cli.statusOf ended.1 = 0 ↔ ∃ report, ended.1 = .ok report) ∧
    ∀ machine config debug settings, Settings.load machine.files machine.here config = .ok settings →
      (Cli.perform machine (.apply config debug options)).status =
        Cli.statusOf ((begin options).run Station.load ⟨machine, settings⟩).1 := by
  intro ended
  have told : Cli.statusOf ended.1 = 78 ↔ GenerationFails options bench ∧ options.exitOnError = true :=
    (Cli.statusOf_eq_78_iff ended.1).trans (exists_run_eq_generation_iff options loaded bench)
  refine ⟨run_eq_error_iff options loaded bench, fun fails => ?_, fun succeeds unlisted => ?_,
    fun succeeds listed unsettled => ?_, told, ?_, Cli.statusOf_eq_zero_iff ended.1,
    fun machine config debug settings found => Cli.status_perform_apply found debug options⟩
  · rw [show ended = _ from run_of_generationFails loaded fails]
    exact ⟨rfl, rfl, rfl⟩
  · rw [show ended = _ from run_of_enumerationFails loaded succeeds unlisted]
    exact ⟨Bench.replay_calls bench _, Bench.replay_devices_of_no_rename generateCalls_spare⟩
  · rw [show ended = _ from run_of_settleFails loaded succeeds listed unsettled]
    exact ⟨Bench.replay_calls bench _, start_not_mem_traceToSettle⟩
  · rw [Cli.statusOf_eq_one_iff, Ne, told]

end Pass

end Relink
