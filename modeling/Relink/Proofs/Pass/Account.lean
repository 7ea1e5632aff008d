import Relink.Proofs.Pass.Trace
import Relink.Proofs.Relocation

/-! The report of a pass against the answers to its calls. Each failed call is in it once, in order, under its own phase
and item; the disconnections alone are passed over, and a configuration that cannot be loaded has an entry of its own. -/

namespace Relink

namespace Bench

variable {bench : Bench} {calls : CallLog} {device newName : String}

/-- What calls made one after the other are answered: each with the failure that it ends in, if it does. -/
def answers (bench : Bench) : CallLog → List (Call × Option Failure)
  | [] => []
  | call :: rest => (call, bench.refusal? call) :: (bench.perform call).answers rest

/-- The entry that an answer has in a report: that of a failure, unless it is of a call that none is reported of. -/
def entry? (answer : Call × Option Failure) : Option ItemFailure :=
  answer.2.bind fun failure => (reported? answer.1).map fun place => ⟨place.1, place.2, failure⟩

theorem answers_append (bench : Bench) (first second : CallLog) :
    bench.answers (first ++ second) = bench.answers first ++ (bench.replay first).answers second := by
  induction first generalizing bench with
  | nil => rfl
  | cons call rest ih => simp [answers, ih]

theorem trouble?_eq (bench : Bench) (call : Call) : bench.trouble? call = entry? (call, bench.refusal? call) := by
  unfold trouble? entry?
  cases reported? call <;> cases bench.refusal? call <;> rfl

theorem troubles_eq (bench : Bench) (calls : CallLog) :
    bench.troubles calls = (bench.answers calls).filterMap entry? := by
  induction calls generalizing bench with
  | nil => rfl
  | cons call rest ih =>
    rw [troubles, answers, List.filterMap_cons, ih, trouble?_eq]
    cases entry? (call, bench.refusal? call) <;> rfl

/-- The moves are the renames that are answered without a failure. -/
theorem mem_moves_iff : (device, newName) ∈ bench.moves calls ↔ (.rename device newName, none) ∈ bench.answers calls := by
  induction calls generalizing bench with
  | nil => simp [moves, answers]
  | cons call rest ih =>
    have here : (device, newName) ∈ (bench.move? call).toList ↔
        (.rename device newName, none) = (call, bench.refusal? call) := by
      rw [Option.mem_toList, Prod.mk.injEq]
      constructor
      · intro moved
        rcases bench.perform_cases call with ⟨unmoved, _⟩ | ⟨source, target, _, rfl, same, _⟩
        · rw [unmoved] at moved
          cases moved
        · cases moved.symm.trans same
          exact ⟨rfl, (refusal?_rename_eq_none_iff.mpr same).symm⟩
      · rintro ⟨rfl, allowed⟩
        exact refusal?_rename_eq_none_iff.mp allowed.symm
    rw [moves, answers, List.mem_append, List.mem_cons, here, ih]

theorem mem_of_mem_answers {answer : Call × Option Failure} (member : answer ∈ bench.answers calls) :
    answer.1 ∈ calls := by
  induction calls generalizing bench with
  | nil => cases member
  | cons call rest ih =>
    rcases List.mem_cons.mp member with rfl | later
    · exact List.mem_cons_self
    · exact List.mem_cons_of_mem call (ih later)

/-- An answer is given by the bench that earlier calls have left, on which all but devices and runtime files is as
at the beginning. -/
theorem exists_refusal?_of_mem_answers {answer : Call × Option Failure} (member : answer ∈ bench.answers calls) :
    ∃ now : Bench, now.setup = bench.setup ∧ now.refusal? answer.1 = answer.2 := by
  induction calls generalizing bench with
  | nil => cases member
  | cons call rest ih =>
    rcases List.mem_cons.mp member with rfl | later
    · exact ⟨bench, rfl, rfl⟩
    · obtain ⟨now, same, refused⟩ := ih later
      exact ⟨now, same.trans (setup_perform bench call), refused⟩

/-- Where devices settle, the calls that fail without a report are disconnections. -/
theorem disconnect_of_unreported {call : Call} {failure : Failure} (settles : bench.settleFails = false)
    (member : (call, some failure) ∈ bench.answers calls) (unreported : reported? call = none) :
    ∃ device, call = .disconnect device := by
  obtain ⟨now, same, refused⟩ := exists_refusal?_of_mem_answers member
  have quiet : now.settleFails = false := (congrArg Bench.settleFails same).trans settles
  cases call with
  | disconnect device => exact ⟨device, rfl⟩
  | backend backend action units sync => cases action <;> cases unreported
  | settle => simp [refusal?, settle, quiet, failureOf] at refused
  | generate | managerRunning => cases refused
  | linkRules device | rename device newName => cases unreported

/-- Where devices settle, nothing is to be reported exactly if no call but disconnections fails. -/
theorem filterMap_entry?_eq_nil_iff (settles : bench.settleFails = false) :
    (bench.answers calls).filterMap entry? = [] ↔
      ∀ call failure, (call, some failure) ∈ bench.answers calls → ∃ device, call = .disconnect device := by
  rw [List.filterMap_eq_nil_iff]
  constructor
  · intro silent call failure member
    have entry : (reported? call).map (fun place => (⟨place.1, place.2, failure⟩ : ItemFailure)) = none :=
      silent (call, some failure) member
    exact disconnect_of_unreported settles member (Option.map_eq_none_iff.mp entry)
  · rintro spared ⟨call, refused⟩ member
    cases refused with
    | none => rfl
    | some failure =>
      obtain ⟨device, rfl⟩ := spared call failure member
      rfl

/-- The failures of the rename phase are of devices that were called to be renamed. -/
theorem rename_mem_of_trouble {failure : ItemFailure} (member : failure ∈ bench.troubles calls)
    (phase : failure.phase = .rename) : ∃ newName, .rename failure.item newName ∈ calls := by
  obtain ⟨call, listed, now, found⟩ := mem_troubles member
  obtain ⟨device, newName, rfl⟩ := (trouble?_phase found).mp phase
  obtain ⟨place, reported, mapped⟩ := Option.bind_eq_some_iff.mp found
  obtain ⟨cause, _, rfl⟩ := Option.map_eq_some_iff.mp mapped
  cases reported
  exact ⟨newName, listed⟩

/-- Calls of which failures are reported in some phases only. -/
def ReportedIn (phases : List Phase) (calls : CallLog) : Prop :=
  ∀ call ∈ calls, ∀ place, reported? call = some place → place.1 ∈ phases

theorem ReportedIn.append {phases : List Phase} {first second : CallLog} (former : ReportedIn phases first)
    (latter : ReportedIn phases second) : ReportedIn phases (first ++ second) := by
  intro call member
  rcases List.mem_append.mp member with here | there
  · exact former call here
  · exact latter call there

theorem ReportedIn.phase_mem {phases : List Phase} {failure : ItemFailure} (confined : ReportedIn phases calls)
    (member : failure ∈ bench.troubles calls) : failure.phase ∈ phases := by
  obtain ⟨call, listed, now, found⟩ := mem_troubles member
  obtain ⟨place, reported, mapped⟩ := Option.bind_eq_some_iff.mp found
  obtain ⟨cause, _, rfl⟩ := Option.map_eq_some_iff.mp mapped
  exact confined call listed place reported

end Bench

namespace Pass

variable {options : Options} {loaded : Except Failure Declared} {bench after : Bench} {report : Report}
variable {device newName : String}

/-- The report as the calls of the pass leave it, with the entry of a configuration that cannot be loaded in its
place. -/
theorem failures_completeReport (options : Options) (loaded : Except Failure Declared) (bench : Bench) :
    (completeReport options loaded bench).failures =
      bench.troubles (openingCalls options bench) ++
        (match loaded with
          | .ok _ => []
          | .error failure => [⟨.rename, declaredItem, failure⟩]) ++
        (bench.replay (openingCalls options bench)).troubles
          ((renameCalls loaded bench bench.devices.names ++ [.settle]) ++
            startCalls options.sync (restarts options bench) bench.units) := by
  cases loaded <;>
    simp [completeReport, Report.noting, Report.recordResult, Report.record, Except.map]

theorem renames_completeReport (options : Options) (loaded : Except Failure Declared) (bench : Bench) :
    (completeReport options loaded bench).renames = .ofList (bench.moves (completeCalls options loaded bench)) := by
  rw [completeCalls, Bench.moves_append, Bench.moves_of_no_rename openingCalls_spare, List.nil_append, Table.ofList_eq]
  cases loaded <;>
    simp [completeReport, Report.noting, Report.recordResult, Report.record, Except.map,
      Bench.moves_of_no_rename openingCalls_spare]

theorem completeCalls_of_error (options : Options) (failure : Failure) (bench : Bench) :
    completeCalls options (.error failure) bench =
      openingCalls options bench ++
        ([.settle] ++ startCalls options.sync (restarts options bench) bench.units) := rfl

theorem rename_not_mem_of_error {failure : Failure} (device newName : String) :
    .rename device newName ∉ completeCalls options (.error failure) bench := by
  simp [completeCalls_of_error, openingCalls_spare, startCalls_spare]

/-- Before the renames, failures are reported of stops and link rules. -/
theorem reportedIn_openingCalls : Bench.ReportedIn [.stop, .linkRules] (openingCalls options bench) := by
  have generated : Bench.ReportedIn [.stop, .linkRules] (generateCalls options) := by
    unfold Bench.ReportedIn generateCalls
    split <;> simp [Bench.reported?]
  have stopped : Bench.ReportedIn [.stop, .linkRules] (stopNetworkdCalls options.sync (restarts options bench)) := by
    unfold Bench.ReportedIn stopNetworkdCalls
    split <;> simp [Bench.reported?]
  have released : Bench.ReportedIn [.stop, .linkRules]
      (stopManagerCalls options.sync (restarts options bench) bench.devices.names bench.managerRuns) := by
    unfold Bench.ReportedIn stopManagerCalls
    split
    · split <;> simp [Bench.reported?, or_imp, forall_and]
    · simp
  have ruled : Bench.ReportedIn [.stop, .linkRules] (bench.devices.names.map .linkRules) := by
    simp [Bench.ReportedIn, Bench.reported?]
  exact generated.append ((stopped.append released).append ruled)

/-- After the wait for the devices, failures are reported of starts. -/
theorem reportedIn_closingCalls :
    Bench.ReportedIn [.start] ([.settle] ++ startCalls options.sync (restarts options bench) bench.units) := by
  refine Bench.ReportedIn.append ?_ ?_
  · simp [Bench.ReportedIn, Bench.reported?]
  · unfold Bench.ReportedIn startCalls
    split <;> split <;> simp [Bench.reported?, or_imp, forall_and]

/-- The renames in the report are the planned ones that were called for without a failure. -/
theorem get?_renames_completeReport :
    (completeReport options loaded bench).renames.get? device = some newName ↔
      (planned loaded bench).get? device = some newName ∧
        (.rename device newName, none) ∈ bench.answers (completeCalls options loaded bench) := by
  have onlyPlanned {name : String} (called : .rename device name ∈ completeCalls options loaded bench) :
      (planned loaded bench).get? device = some name := by
    cases loaded with
    | error failure => exact absurd called (rename_not_mem_of_error device name)
    | ok declared =>
      rw [planned, Bench.get?_plan]
      exact rename_mem_completeCalls_iff.mp called
  rw [renames_completeReport]
  constructor
  · intro renamed
    have answered := Bench.mem_moves_iff.mp (Table.mem_of_get?_ofList renamed)
    exact ⟨onlyPlanned (Bench.mem_of_mem_answers answered), answered⟩
  · rintro ⟨plan, answered⟩
    have moved := Bench.mem_moves_iff.mpr answered
    have named : device ∈ (Table.ofList (bench.moves (completeCalls options loaded bench))).names :=
      Table.mem_names_ofList.mpr (List.mem_map.mpr ⟨(device, newName), moved, rfl⟩)
    obtain ⟨other, renamed⟩ := (Table.mem_names_iff _).mp named
    have again := onlyPlanned (Bench.mem_of_mem_answers (Bench.mem_moves_iff.mp (Table.mem_of_get?_ofList renamed)))
    rw [renamed, ← again, plan]

theorem failures_completeReport_of_ok (options : Options) (declared : Declared) (bench : Bench) :
    (completeReport options (.ok declared) bench).failures =
      (bench.answers (completeCalls options (.ok declared) bench)).filterMap Bench.entry? := by
  rw [← Bench.troubles_eq, completeReport_of_ok]
  rfl

/-- Of a device whose state cannot be read, the rename phase says nothing. -/
theorem unreadable_unnamed {record : Bench.Device} (found : bench.devices.get? device = some record)
    (unreadable : record.state = none) :
    (∀ newName, .rename device newName ∉ completeCalls options loaded bench) ∧
      ∀ declared, loaded = .ok declared →
        device ∉ ((completeReport options loaded bench).failuresIn .rename).map (·.item) := by
  have uncalled (newName : String) : .rename device newName ∉ completeCalls options loaded bench := by
    intro called
    cases loaded with
    | error failure => exact rename_not_mem_of_error device newName called
    | ok declared =>
      obtain ⟨_, _, other, same, down, _⟩ := Bench.target?_eq_some_iff.mp (rename_mem_completeCalls_iff.mp called)
      cases found.symm.trans same
      rw [unreadable] at down
      cases down
  refine ⟨uncalled, ?_⟩
  rintro declared rfl named
  obtain ⟨failure, member, rfl⟩ := List.mem_map.mp named
  rw [Report.failuresIn, List.mem_filter, failures_completeReport_of_ok, ← Bench.troubles_eq, decide_eq_true_eq] at member
  obtain ⟨newName, called⟩ := Bench.rename_mem_of_trouble member.1 member.2
  exact uncalled newName called

/-- A report accounts for its pass. Its failures are those of the calls, disconnections aside, in their order, and one
more where the configuration cannot be loaded, after the link rules and before the starts; then nothing is renamed. Its
renames are the planned ones whose call succeeded. Nothing else keeps it from being clean; a device whose state cannot
be read is not called to be renamed, and no failure tells of that. -/
theorem report_accounts (finished : (begin options).run (fun _ => loaded) bench = (.ok report, after)) :
    ∃ calls, after = bench.replay calls ∧ after.calls = bench.calls ++ calls ∧
      (∀ declared, loaded = .ok declared → report.failures = (bench.answers calls).filterMap Bench.entry?) ∧
      (∀ failure, loaded = .error failure →
        (∃ earlier later, bench.answers calls = earlier ++ later ∧
          report.failures = earlier.filterMap Bench.entry? ++
            ⟨.rename, "declared configuration", failure⟩ :: later.filterMap Bench.entry? ∧
          (∀ entry ∈ earlier.filterMap Bench.entry?, entry.phase ∈ [.stop, .linkRules]) ∧
          ∀ entry ∈ later.filterMap Bench.entry?, entry.phase ∈ [.start]) ∧
        (∀ device newName, .rename device newName ∉ calls) ∧ report.renames = ∅) ∧
      (∀ call failure, (call, some failure) ∈ bench.answers calls → Bench.reported? call = none →
        ∃ device, call = .disconnect device) ∧
      (∀ device newName, report.renames.get? device = some newName ↔
        (planned loaded bench).get? device = some newName ∧
          (.rename device newName, none) ∈ bench.answers calls) ∧
      (report.isClean = true ↔ (∃ declared, loaded = .ok declared) ∧
        ∀ call failure, (call, some failure) ∈ bench.answers calls → ∃ device, call = .disconnect device) ∧
      ∀ device record, bench.devices.get? device = some record → record.state = none →
        (∀ newName, .rename device newName ∉ calls) ∧
          ∀ declared, loaded = .ok declared → device ∉ (report.failuresIn .rename).map (·.item) := by
  obtain ⟨⟨_, _, settles⟩, rfl, reached⟩ := run_begin_eq_ok_iff.mp finished
  refine ⟨completeCalls options loaded bench, reached.symm, by rw [← reached, Bench.replay_calls], ?_, ?_,
    fun call failure => Bench.disconnect_of_unreported settles, fun device newName => get?_renames_completeReport, ?_,
    fun device record found unreadable => unreadable_unnamed found unreadable⟩
  · rintro declared rfl
    exact failures_completeReport_of_ok options declared bench
  · rintro failure rfl
    refine ⟨⟨_, _, Bench.answers_append bench _ _, ?_, ?_, ?_⟩, rename_not_mem_of_error, ?_⟩
    · rw [failures_completeReport, ← Bench.troubles_eq, ← Bench.troubles_eq, List.append_assoc]
      rfl
    · rw [← Bench.troubles_eq]
      exact fun entry => reportedIn_openingCalls.phase_mem
    · rw [← Bench.troubles_eq]
      exact fun entry => reportedIn_closingCalls.phase_mem
    · rw [renames_completeReport, Bench.moves_of_no_rename rename_not_mem_of_error]
      rfl
  · rw [Report.isClean, List.isEmpty_iff]
    cases loaded with
    | ok declared =>
      rw [failures_completeReport_of_ok, Bench.filterMap_entry?_eq_nil_iff settles]
      simp
    | error failure => simp [failures_completeReport]

/-- On the strained bench each failure but that of the disconnection is reported; the second card is not renamed
because the first one keeps its name. -/
theorem report_accounts_strained :
    ∃ report after, (begin {}).run (fun _ => .ok Bench.cards.1) strained = (.ok report, after) ∧
      (.disconnect "eth1", some (.shellExit "nmcli device disconnect eth1" 1 "injected failure")) ∈
        strained.answers after.calls ∧
      report.failures.map (fun entry => (entry.phase, entry.item)) =
        [(.stop, "systemd-networkd.service"), (.linkRules, "eth1"), (.rename, "eth0"), (.rename, "eth1"),
          (.start, "NetworkManager.service")] := by
  have finished : (begin {}).run (fun _ => .ok Bench.cards.1) strained = _ :=
    run_begin_eq_ok_iff.mpr ⟨by decide, rfl, rfl⟩
  obtain ⟨calls, _, logged, failures, _⟩ := report_accounts finished
  obtain rfl : _ = calls := logged
  refine ⟨_, _, finished, by decide, ?_⟩
  rw [failures _ rfl]
  decide

end Pass

end Relink
