import Relink.Proofs.Pass.Course

/-! A step that failed can be tried again as if it had never been tried. All that it leaves is in the log of the bench, and
perhaps a decision on restarts that is made anew before anything hangs on it. -/

namespace Relink

namespace Bench

variable {first second : Bench}

/-- A bench with nothing written down. -/
def unlogged (bench : Bench) : Bench :=
  { bench with calls := [] }

/-- What does not hang on the log reads the same on benches that differ in their logs alone. -/
theorem read_of_unlogged_eq {α : Type} (read : Bench → α) (blind : ∀ bench : Bench, read bench.unlogged = read bench)
    (alike : first.unlogged = second.unlogged) : read first = read second := by
  rw [← blind first, alike, blind second]

/-- All that comes of a call but the log. -/
def outcome (call : Call) (bench : Bench) : Option (String × String) × Option ItemFailure × Bench :=
  (bench.move? call, bench.trouble? call, (bench.perform call).unlogged)

theorem outcome_unlogged (call : Call) (bench : Bench) : outcome call bench.unlogged = outcome call bench := by
  cases call with
  | generate =>
    by_cases success : bench.generatorExit = 0 <;> simp [outcome, perform, generate, log, unlogged, success, move?,
      trouble?, refusal?]
  | rename device newName =>
    cases refusal : bench.renameRefusal? device newName with
    | some reason =>
      have refused (bench : Bench) (refusal : bench.renameRefusal? device newName = some reason) :
          bench.rename device newName =
            (.error (.rename device newName reason), bench.log (.rename device newName)) := by
        rw [rename, show (bench.log (.rename device newName)).renameRefusal? device newName = some reason from refusal]
      simp only [outcome, move?, trouble?, refusal?, perform, refused bench refusal, refused bench.unlogged refusal]
      rfl
    | none =>
      have granted (bench : Bench) (refusal : bench.renameRefusal? device newName = none) :
          bench.rename device newName =
            (.ok (), { bench.log (.rename device newName) with devices := move bench.devices device newName }) := by
        rw [rename, show (bench.log (.rename device newName)).renameRefusal? device newName = none from refusal]
        rfl
      simp only [outcome, move?, trouble?, refusal?, perform, granted bench refusal, granted bench.unlogged refusal]
      rfl
  | _ => rfl

theorem replay_of_unlogged_eq (alike : first.unlogged = second.unlogged) (calls : CallLog) :
    first.moves calls = second.moves calls ∧ first.troubles calls = second.troubles calls ∧
      (first.replay calls).unlogged = (second.replay calls).unlogged := by
  induction calls generalizing first second with
  | nil => exact ⟨rfl, rfl, alike⟩
  | cons call rest ih =>
    have same := read_of_unlogged_eq (outcome call) (outcome_unlogged call) alike
    obtain ⟨move, others⟩ := Prod.ext_iff.mp same
    obtain ⟨trouble, after⟩ := Prod.ext_iff.mp others
    obtain ⟨moves, troubles, last⟩ := ih after
    refine ⟨?_, ?_, last⟩
    · rw [Bench.moves, Bench.moves, moves, show first.move? call = second.move? call from move]
    · rw [Bench.troubles, Bench.troubles, troubles, show first.trouble? call = second.trouble? call from trouble]

end Bench

namespace Pass

variable {pass first second : Pass} {load : Bench → Except Failure Declared} {bench other : Bench}

def deciding (pass : Pass) (restarts : Services) : Pass :=
  { pass with report := { pass.report with restarts := restarts } }

/-- A pass that is the same as another one but perhaps for a decision on restarts that is still to be made. -/
inductive Alike (pass : Pass) : Pass → Prop where
  | same : Alike pass pass
  | undecided (ahead : .decide ∈ pass.phase.onward) (restarts : Services) : Alike pass (pass.deciding restarts)

theorem decide_mem_onward_iff (phase : Phase) :
    .decide ∈ phase.onward ↔ phase = .snapshotBefore ∨ phase = .generate ∨ phase = .decide := by
  cases phase <;> decide

/-- A step does not hang on the log of the bench. -/
theorem step_of_unlogged_eq (alike : bench.unlogged = other.unlogged) (loaded : load bench = load other) (pass : Pass) :
    (pass.step load bench).1 = (pass.step load other).1 ∧ (pass.step load bench).2.1 = (pass.step load other).2.1 ∧
      (pass.step load bench).2.2.unlogged = (pass.step load other).2.2.unlogged := by
  have called : pass.nextCalls (load bench) bench = pass.nextCalls (load other) other := by
    rw [loaded]
    exact Bench.read_of_unlogged_eq (pass.nextCalls (load other)) (fun _ => rfl) alike
  have after : (pass.step load bench).2.2.unlogged = (pass.step load other).2.2.unlogged := by
    rw [step_bench, step_bench, called]
    exact (Bench.replay_of_unlogged_eq alike _).2.2
  have noted (report : Report) (calls : CallLog) : report.noting bench calls = report.noting other calls := by
    obtain ⟨moves, troubles, _⟩ := Bench.replay_of_unlogged_eq alike calls
    rw [Report.noting, Report.noting, moves, troubles]
  have present : bench.artifacts = other.artifacts := Bench.read_of_unlogged_eq Bench.artifacts (fun _ => rfl) alike
  have unlisted : bench.enumerationFails = other.enumerationFails :=
    Bench.read_of_unlogged_eq Bench.enumerationFails (fun _ => rfl) alike
  suffices answered : (pass.step load bench).1 = (pass.step load other).1 ∧
      (pass.step load bench).2.1 = (pass.step load other).2.1 from ⟨answered.1, answered.2, after⟩
  cases here : pass.phase with
  | snapshotBefore =>
    rw [step_snapshotBefore here, step_snapshotBefore here, present]
    exact ⟨rfl, rfl⟩
  | generate =>
    have generated : generationFailure? pass.options bench = generationFailure? pass.options other :=
      Bench.read_of_unlogged_eq (generationFailure? pass.options) (fun _ => rfl) alike
    rw [step_generate here, step_generate here, generated]
    cases generationFailure? pass.options other <;> exact ⟨rfl, rfl⟩
  | decide =>
    have devices : bench.devices = other.devices := Bench.read_of_unlogged_eq Bench.devices (fun _ => rfl) alike
    rw [step_decide here, step_decide here, present, devices, unlisted]
    cases other.enumerationFails <;> exact ⟨rfl, rfl⟩
  | stop | linkRules | start =>
    have working : pass.phase ∈ [.stop, .linkRules, .start] := by simp [here]
    rw [step_noting (.inl working), step_noting (.inl working), called, noted]
    exact ⟨rfl, rfl⟩
  | rename =>
    cases found : load other with
    | ok declared =>
      rw [step_noting (.inr ⟨here, declared, loaded.trans found⟩), step_noting (.inr ⟨here, declared, found⟩), called,
        noted]
      exact ⟨rfl, rfl⟩
    | error failure =>
      rw [step_rename_of_error here (loaded.trans found), step_rename_of_error here found]
      exact ⟨rfl, rfl⟩
  | settle =>
    have fails : bench.settleFails = other.settleFails := Bench.read_of_unlogged_eq Bench.settleFails (fun _ => rfl) alike
    rw [step_settle here, step_settle here, fails]
    exact ⟨rfl, rfl⟩
  | done =>
    rw [step_done here, step_done here]
    exact ⟨rfl, rfl⟩

/-- A decision on restarts that is still to be made does not hang on an earlier one. -/
theorem Alike.step (alike : first.Alike second) (load : Bench → Except Failure Declared) (bench : Bench) :
    (first.step load bench).1 = (second.step load bench).1 ∧
      (first.step load bench).2.1.Alike (second.step load bench).2.1 ∧
      (first.step load bench).2.2 = (second.step load bench).2.2 := by
  cases alike with
  | same => exact ⟨rfl, .same, rfl⟩
  | undecided ahead restarts =>
    have phase : (first.deciding restarts).phase = first.phase := rfl
    rcases (decide_mem_onward_iff first.phase).mp ahead with here | here | here
    · rw [step_snapshotBefore here, step_snapshotBefore (phase.trans here)]
      exact ⟨rfl, .undecided (show .decide ∈ Phase.generate.onward by decide) restarts, rfl⟩
    · have options : (first.deciding restarts).options = first.options := rfl
      rw [step_generate here, step_generate (phase.trans here), options]
      cases generationFailure? first.options bench with
      | some failure => exact ⟨rfl, .undecided ahead restarts, rfl⟩
      | none => exact ⟨rfl, .undecided (show .decide ∈ Phase.decide.onward by decide) restarts, rfl⟩
    · rw [step_decide here, step_decide (phase.trans here)]
      cases bench.enumerationFails <;> exact ⟨rfl, .same, rfl⟩

theorem Alike.fields (alike : first.Alike second) :
    second.phase = first.phase ∧ second.report.devices = first.report.devices ∧
      second.report.renames = first.report.renames ∧ second.report.failures = first.report.failures := by
  cases alike <;> exact ⟨rfl, rfl, rfl, rfl⟩

theorem Alike.report (alike : first.Alike second) (decided : .decide ∉ first.phase.onward) :
    second.report = first.report := by
  cases alike with
  | same => rfl
  | undecided ahead restarts => exact absurd ahead decided

/-- What a failed step leaves: the pass but for a decision that is still to be made, and the bench but for its log. -/
theorem step_error_alike {failure : Failure} (failed : (pass.step load bench).1 = .error failure) :
    pass.Alike (pass.step load bench).2.1 ∧
      ∃ calls, (pass.step load bench).2.2 = { bench with calls := bench.calls ++ calls } := by
  obtain ⟨fatal, _⟩ := step_error failed
  simp only [List.mem_cons, List.not_mem_nil, or_false] at fatal
  rcases fatal with here | here | here
  · rw [step_generate here] at failed ⊢
    cases fails : generationFailure? pass.options bench with
    | none => simp [fails] at failed
    | some cause =>
      obtain ⟨wanted, unsuccessful⟩ : pass.options.runGenerate = true ∧ bench.generatorExit ≠ 0 := by
        unfold generationFailure? at fails
        split at fails
        · assumption
        · cases fails
      refine ⟨.same, [.generate], ?_⟩
      simp [generateCalls, wanted, Bench.perform, Bench.generate, Bench.log, unsuccessful]
  · rw [step_decide here] at failed ⊢
    by_cases unlisted : bench.enumerationFails = true
    · rw [if_pos unlisted]
      refine ⟨.undecided (by simp [here, Phase.onward]) _, [], ?_⟩
      rw [List.append_nil]
    · simp [unlisted] at failed
  · rw [step_settle here] at failed ⊢
    by_cases unsettled : bench.settleFails = true
    · rw [if_pos unsettled, if_pos unsettled]
      exact ⟨.same, [.settle], rfl⟩
    · simp [unsettled] at failed

end Pass

/-- An event that does not hang on the log of the bench: the configuration is loaded alike on benches that differ in
their logs alone, and what other hands do to such benches leaves them so. -/
def Event.Blind : Event → Prop
  | .step load => ∀ first second : Bench, first.unlogged = second.unlogged → load first = load second
  | .change deed =>
    ∀ first second : Bench, first.unlogged = second.unlogged → (deed first).unlogged = (deed second).unlogged

theorem Event.blind_of_unlogged {deed : Bench → Bench}
    (blind : ∀ bench : Bench, (deed bench.unlogged).unlogged = (deed bench).unlogged) : (Event.change deed).Blind :=
  fun _ _ alike => Bench.read_of_unlogged_eq (fun bench => (deed bench).unlogged) blind alike

/-- Calls made to the bench by other hands are blind. -/
theorem Event.blind_perform (call : Call) : (Event.change (·.perform call)).Blind :=
  blind_of_unlogged fun bench => congrArg (·.2.2) (Bench.outcome_unlogged call bench)

theorem Event.blind_setState (name state : String) : (Event.change (·.setState name state)).Blind := by
  refine blind_of_unlogged fun bench => ?_
  have same : bench.unlogged.devices.get? name = bench.devices.get? name := rfl
  cases found : bench.devices.get? name <;> simp only [Bench.setState, same, found] <;> rfl

namespace Course

variable {course first second : Course}

/-- What the steps among some events give, one after the other. -/
def results (course : Course) : List Event → List (Except Failure Phase)
  | [] => []
  | .step load :: rest => (course.pass.step load course.bench).1 :: (course.next (.step load)).results rest
  | .change deed :: rest => (course.next (.change deed)).results rest

/-- Courses that cannot be told apart by what is still to come. -/
structure Alike (first second : Course) : Prop where
  pass : first.pass.Alike second.pass
  bench : first.bench.unlogged = second.bench.unlogged

/-- A step on courses that are alike gives the same and leaves them alike. -/
theorem Alike.next_step (alike : first.Alike second) {load : Bench → Except Failure Declared}
    (blind : (Event.step load).Blind) :
    (first.pass.step load first.bench).1 = (second.pass.step load second.bench).1 ∧
      (first.next (.step load)).Alike (second.next (.step load)) := by
  obtain ⟨result, pass, bench⟩ := alike.pass.step load first.bench
  obtain ⟨sameResult, samePass, sameBench⟩ :=
    Pass.step_of_unlogged_eq alike.bench (blind first.bench second.bench alike.bench) second.pass
  rw [samePass] at pass
  exact ⟨result.trans sameResult, pass, (congrArg Bench.unlogged bench).trans sameBench⟩

theorem Alike.along (alike : first.Alike second) {events : List Event} (blind : ∀ event ∈ events, event.Blind) :
    first.results events = second.results events ∧
      (events.foldl Course.next first).Alike (events.foldl Course.next second) := by
  induction events generalizing first second with
  | nil => exact ⟨rfl, alike⟩
  | cons event rest ih =>
    obtain ⟨now, later⟩ := List.forall_mem_cons.mp blind
    cases event with
    | step load =>
      obtain ⟨result, after⟩ := alike.next_step now
      obtain ⟨results, last⟩ := ih after later
      exact ⟨by rw [Course.results, Course.results, result, results], last⟩
    | change deed => exact ih ⟨alike.pass, now first.bench second.bench alike.bench⟩ later

/-- A step that fails leaves the pass in its phase with the report that it had, but for a decision on restarts, and
changes nothing of the bench but its log. Whatever happens then, further steps and other hands alike, goes as if the
step had not been tried: the steps give the same, from the decision on the reports are the same, and the bench ends
the same but for its log. -/
theorem failed_step_leaves_no_trace (course : Course) (load : Bench → Except Failure Declared) {failure : Failure}
    (failed : (course.pass.step load course.bench).1 = .error failure) :
    let tried := course.next (.step load)
    (tried.pass.phase = course.pass.phase ∧ tried.pass.report.devices = course.pass.report.devices ∧
        tried.pass.report.renames = course.pass.report.renames ∧
        tried.pass.report.failures = course.pass.report.failures ∧
        ∃ calls, tried.bench = { course.bench with calls := course.bench.calls ++ calls }) ∧
      ∀ events : List Event, (∀ event ∈ events, event.Blind) →
        tried.results events = course.results events ∧
        (events.foldl next tried).pass.phase = (events.foldl next course).pass.phase ∧
        (.decide ∉ (events.foldl next course).pass.phase.onward →
          (events.foldl next tried).pass.report = (events.foldl next course).pass.report) ∧
        (events.foldl next tried).bench.unlogged = (events.foldl next course).bench.unlogged := by
  obtain ⟨pass, calls, logged⟩ := Pass.step_error_alike failed
  have bench : (course.next (.step load)).bench = { course.bench with calls := course.bench.calls ++ calls } := logged
  have alike : course.Alike (course.next (.step load)) := ⟨pass, by rw [bench]; rfl⟩
  obtain ⟨phase, devices, renames, failures⟩ := pass.fields
  refine ⟨⟨phase, devices, renames, failures, calls, bench⟩, fun events blind => ?_⟩
  obtain ⟨results, last⟩ := alike.along blind
  exact ⟨results.symm, last.pass.fields.1, last.pass.report, last.bench.symm⟩

def cardsStep : Event :=
  .step fun _ => .ok Bench.cards.1

/-- A pass at its decision on a bench whose devices cannot be listed. -/
def unlisted : Course :=
  [cardsStep, cardsStep].foldl next
    (begin {} { Bench.cards.2 with enumerationFails := true, artifactsToCome := ⟨true, true⟩ })

/-- The decision is tried once more. Then the devices can be listed, a backend loses its runtime files and a device is
moved, and the pass goes on to its end. -/
def recovery : List Event :=
  [cardsStep, .change fun bench => { bench with enumerationFails := false, artifacts := ⟨true, false⟩ },
    .change (·.perform (.rename "eth1" "eth2")), .change (·.setState "eth2" "down")] ++
    List.replicate 6 cardsStep

theorem failed_step_leaves_no_trace_unlisted :
    (unlisted.pass.step (fun _ => .ok Bench.cards.1) unlisted.bench).1 =
        .error (.enumeration (.described Bench.injected)) ∧
      (unlisted.next cardsStep).pass.report.restarts ≠ unlisted.pass.report.restarts ∧
      (unlisted.next cardsStep).results recovery = unlisted.results recovery ∧
      (recovery.foldl next (unlisted.next cardsStep)).pass.report = (recovery.foldl next unlisted).pass.report ∧
      (recovery.foldl next unlisted).pass.phase = .done := by
  have failed : (unlisted.pass.step (fun _ => .ok Bench.cards.1) unlisted.bench).1 =
      .error (.enumeration (.described Bench.injected)) := by rfl
  have blind : ∀ event ∈ recovery, event.Blind := by
    have steps : cardsStep.Blind := fun _ _ _ => rfl
    have listed : (Event.change fun bench => { bench with enumerationFails := false, artifacts := ⟨true, false⟩ }).Blind :=
      Event.blind_of_unlogged fun _ => rfl
    simp [recovery, steps, listed, Event.blind_perform, Event.blind_setState]
  have done : (recovery.foldl next unlisted).pass.phase = .done := by decide
  have decided : .decide ∉ (recovery.foldl next unlisted).pass.phase.onward := by
    rw [done]
    decide
  obtain ⟨_, later⟩ := failed_step_leaves_no_trace unlisted _ failed
  obtain ⟨results, _, report, _⟩ := later recovery blind
  exact ⟨failed, by decide, results, report decided, done⟩

end Course

end Relink
