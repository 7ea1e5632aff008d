import Relink.Proofs.Pass.Phases

/-! A pass under way while other hands change its bench. Whatever they do between the steps, each rename that a
step issues is safe at the moment at which it is issued. -/

namespace Relink

/-- What happens while a pass is under way: its next step, in which the configuration is loaded in some way, or a
change of the bench by other hands. -/
inductive Event where
  | step (load : Bench → Except Failure Declared)
  | change (deed : Bench → Bench)

/-- A pass under way on a bench, with the devices that it enumerated when it decided, if it has. -/
structure Course where
  pass : Pass
  bench : Bench
  enumerated : Option (List String)

namespace Course

def begin (options : Options) (bench : Bench) : Course :=
  ⟨Pass.begin options, bench, none⟩

def next (course : Course) : Event → Course
  | .change deed => { course with bench := deed course.bench }
  | .step load =>
    { pass := (course.pass.step load course.bench).2.1
      bench := (course.pass.step load course.bench).2.2
      enumerated :=
        match course.pass.phase, course.bench.inventory.interfaces with
        | .decide, .ok names => some names
        | _, _ => course.enumerated }

/-- The courses that a pass can take, from any bench on. -/
inductive Reached : Course → Prop where
  | begin (options : Options) (bench : Bench) : Reached (begin options bench)
  | next {course : Course} (earlier : Reached course) (event : Event) : Reached (course.next event)

variable {course : Course} {load : Bench → Except Failure Declared}

/-- What holds of a pass at any time: once it has decided, its report lists the devices that it enumerated,
and until it renames, no rename is reported. -/
structure Sound (course : Course) : Prop where
  decided : .decide ∉ course.pass.phase.onward → course.enumerated = some course.pass.report.devices
  unrenamed : .rename ∈ course.pass.phase.onward →
    course.pass.report.renames = ∅ ∧ course.pass.report.failuresIn .rename = []

theorem sound_begin (options : Options) (bench : Bench) : (begin options bench).Sound where
  decided undecided := absurd (show .decide ∈ Phase.snapshotBefore.onward by decide) undecided
  unrenamed _ := ⟨rfl, rfl⟩

theorem next_phase (course : Course) (load : Bench → Except Failure Declared) :
    ((course.next (.step load)).pass.phase = course.pass.phase ∧
        course.pass.phase ∈ [.generate, .decide, .settle]) ∨
      (course.next (.step load)).pass.phase = course.pass.phase.next := by
  cases result : (course.pass.step load course.bench).1 with
  | ok phase => exact .inr (Pass.step_ok result).2
  | error failure =>
    obtain ⟨fatal, restarts, after⟩ := Pass.step_error result
    have stayed : (course.pass.step load course.bench).2.1.phase = course.pass.phase := by rw [after]
    exact .inl ⟨stayed, fatal⟩

theorem mem_onward_of_next {phase : Phase} (ahead : phase ∈ (course.next (.step load)).pass.phase.onward) :
    phase ∈ course.pass.phase.onward := by
  rcases course.next_phase load with ⟨stayed, _⟩ | moved
  · exact stayed ▸ ahead
  · rw [moved, Phase.onward_next] at ahead
    exact List.mem_of_mem_tail ahead

theorem mem_onward_next {phase : Phase} (ahead : phase ∈ course.pass.phase.onward)
    (other : course.pass.phase ≠ phase) : phase ∈ (course.next (.step load)).pass.phase.onward := by
  rcases course.next_phase load with ⟨stayed, _⟩ | moved
  · exact stayed ▸ ahead
  · rw [moved]
    revert ahead other
    generalize course.pass.phase = here
    cases here <;> cases phase <;> decide

theorem Sound.next_step (sound : course.Sound) (load : Bench → Except Failure Declared) :
    (course.next (.step load)).Sound := by
  refine ⟨fun past => ?_, fun ahead => ?_⟩
  · by_cases deciding : course.pass.phase = .decide
    · have stepped : course.pass.step load course.bench = _ := Pass.step_decide deciding
      cases fails : course.bench.enumerationFails with
      | true => simp [next, stepped, fails, deciding, Phase.onward] at past
      | false => simp [next, stepped, fails, deciding, Bench.inventory]
    · have before : .decide ∉ course.pass.phase.onward := fun ahead => past (mem_onward_next ahead deciding)
      have kept : (course.next (.step load)).enumerated = course.enumerated := by
        simp only [next]
        split
        · rename_i here _
          exact absurd here deciding
        · rfl
      rw [kept, sound.decided before]
      exact congrArg some (Pass.step_devices load course.bench deciding).symm
  · have before : course.pass.phase ≠ .rename := by
      intro here
      rcases course.next_phase load with ⟨_, fatal⟩ | moved
      · simp [here] at fatal
      · rw [moved, here] at ahead
        exact absurd ahead (by decide)
    obtain ⟨unrenamed, unreported⟩ := sound.unrenamed (mem_onward_of_next ahead)
    obtain ⟨renames, failures⟩ := Pass.step_renames load course.bench before
    exact ⟨renames.trans unrenamed, failures.trans unreported⟩

theorem Reached.sound (reached : course.Reached) : course.Sound := by
  induction reached with
  | begin options bench => exact sound_begin options bench
  | next _ event ih =>
    cases event with
    | step load => exact ih.next_step load
    | change deed => exact ⟨ih.decided, ih.unrenamed⟩

theorem Reached.along (reached : course.Reached) (events : List Event) : (events.foldl Course.next course).Reached := by
  induction events generalizing course with
  | nil => exact reached
  | cons event rest ih => exact ih (reached.next event)

/-- The calls that a step adds to the log are the next calls of the pass, and all that happens to the bench. -/
theorem nextCalls_of_log {calls : CallLog}
    (issued : (course.next (.step load)).bench.calls = course.bench.calls ++ calls) :
    course.pass.nextCalls (load course.bench) course.bench = calls ∧
      (course.next (.step load)).bench = course.bench.replay calls := by
  have stepped : (course.next (.step load)).bench =
      course.bench.replay (course.pass.nextCalls (load course.bench) course.bench) :=
    Pass.step_bench load course.pass course.bench
  rw [stepped, Bench.replay_calls] at issued
  have same := List.append_cancel_left issued
  exact ⟨same, same ▸ stepped⟩

/-- Every rename that a step issues is of a device that the pass enumerated when it decided, that is declared
as a physical link and belongs to no composite, that gets another name, and that is down at the moment of the
call, when the calls issued before it have had their effect. -/
theorem rename_issued_safely (reached : course.Reached) {device newName : String} {earlier later : CallLog}
    (issued : (course.next (.step load)).bench.calls =
      course.bench.calls ++ (earlier ++ .rename device newName :: later)) :
    (course.next (.step load)).bench = course.bench.replay (earlier ++ .rename device newName :: later) ∧
      (∃ devices, course.enumerated = some devices ∧ device ∈ devices) ∧
      (∃ declared, load course.bench = .ok declared ∧
        device ≠ rendererKey ∧ (∃ rule ∈ declared.rules, rule.id = device) ∧
        ∀ composite ∈ declared.composites, device ∉ composite.members.names) ∧
      newName ≠ device ∧
      ∃ record, (course.bench.replay earlier).devices.get? device = some record ∧
        record.state = some "down" := by
  obtain ⟨calls, moved⟩ := nextCalls_of_log issued
  have member : .rename device newName ∈ course.pass.nextCalls (load course.bench) course.bench := by
    simp [calls]
  obtain ⟨here, declared, loaded, planned⟩ := Pass.rename_mem_nextCalls member
  obtain ⟨listed, target⟩ := Plan.target?_at_call (planned.symm.trans calls)
  obtain ⟨physical, single, record, found, down, preferred⟩ := Bench.target?_eq_some_iff.mp target
  have past : .decide ∉ course.pass.phase.onward := by
    rw [here]
    decide
  exact ⟨moved, ⟨_, reached.sound.decided past, listed⟩,
    ⟨declared, loaded, ((declared.isPhysical_iff device).mp physical).1,
      ((declared.isPhysical_iff device).mp physical).2,
      (Composite.isMember_eq_false_iff declared.composites device).mp single⟩,
    (Plan.preferred_eq_some_iff.mp preferred).1, record, found, down⟩

/-- A course on the cards up to its rename phase. The third card is plugged in after the decision. -/
def pluggedIn : Course :=
  let step : Event := .step fun _ => .ok Bench.cards.1
  let plugIn : Event := .change fun bench => bench.addDevice "eth2" ⟨some "down", some "igb", none⟩
  [step, step, step, plugIn, step, step].foldl next (begin {} Bench.cards.2)

theorem rename_issued_safely_pluggedIn :
    pluggedIn.Reached ∧
      (pluggedIn.next (.step fun _ => .ok Bench.cards.1)).bench.calls =
        pluggedIn.bench.calls ++ ([.rename "eth0" "lan0"] ++ .rename "eth1" "eth0" :: []) ∧
      (∃ devices, pluggedIn.enumerated = some devices ∧ "eth1" ∈ devices) ∧
      ∃ record, (pluggedIn.bench.replay [.rename "eth0" "lan0"]).devices.get? "eth1" = some record ∧
        record.state = some "down" := by
  have reached : pluggedIn.Reached := (Reached.begin {} Bench.cards.2).along _
  have issued : (pluggedIn.next (.step fun _ => .ok Bench.cards.1)).bench.calls =
      pluggedIn.bench.calls ++ ([.rename "eth0" "lan0"] ++ .rename "eth1" "eth0" :: []) := by decide
  obtain ⟨_, enumerated, _, _, down⟩ := rename_issued_safely reached issued
  exact ⟨reached, issued, enumerated, down⟩

end Course

end Relink
