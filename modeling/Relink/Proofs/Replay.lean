import Relink.Host.Bench
import Relink.Proofs.Table
import Relink.Report

/-! What a list of calls does to a bench, call after call. The condition after any part of the calls is the one
that the next call meets, and a call moves at most one device. -/

namespace Relink.Bench

variable {bench : Bench} {calls : CallLog} {device newName : String} {record : Device}

def perform (bench : Bench) : Call → Bench
  | .generate => bench.generate.2
  | .backend backend action units sync => (control backend action units sync bench).2
  | .managerRunning => bench.log .managerRunning
  | .disconnect device => (disconnect device bench).2
  | .linkRules device => (applyLinkRules device bench).2
  | .rename device newName => (rename device newName bench).2
  | .settle => bench.settle.2

/-- The bench after calls have been made to it, one after the other. -/
def replay (bench : Bench) : CallLog → Bench
  | [] => bench
  | call :: rest => (bench.perform call).replay rest

@[simp] theorem replay_nil (bench : Bench) : bench.replay [] = bench := rfl

@[simp] theorem replay_cons (bench : Bench) (call : Call) (rest : CallLog) :
    bench.replay (call :: rest) = (bench.perform call).replay rest := rfl

theorem replay_append (bench : Bench) (first second : CallLog) :
    bench.replay (first ++ second) = (bench.replay first).replay second := by
  induction first generalizing bench with
  | nil => rfl
  | cons call rest ih => exact ih (bench.perform call)

/-- What calls leave as it is: how a bench answers them. -/
def setup (bench : Bench) : Bench :=
  { bench with devices := ∅, artifacts := Services.none, calls := [] }

theorem renameRefusal?_eq_none (allowed : bench.renameRefusal? device newName = none) :
    bench.devices.get? newName = none ∧ ∃ record, bench.devices.get? device = some record := by
  unfold renameRefusal? at allowed
  split at allowed
  · cases allowed
  · split at allowed
    · cases allowed
    · rename_i free
      split at allowed
      · rename_i present
        exact ⟨bench.devices.contains_eq_false_iff.mp (Bool.eq_false_iff.mpr free),
          bench.devices.contains_iff.mp present⟩
      · cases allowed

/-- A rename is refused and changes nothing, or it moves the device to a free name. -/
theorem rename_cases (device newName : String) (bench : Bench) :
    (∃ reason, bench.rename device newName =
        (.error (.rename device newName reason), bench.log (.rename device newName))) ∨
      ∃ record, bench.devices.get? device = some record ∧ bench.devices.get? newName = none ∧
        bench.rename device newName =
          (.ok (), { bench.log (.rename device newName) with
            devices := (bench.devices.erase device).insert newName record }) := by
  cases refusal : (bench.log (.rename device newName)).renameRefusal? device newName with
  | some reason => exact .inl ⟨reason, by simp [rename, refusal]⟩
  | none =>
    obtain ⟨free, record, found⟩ := renameRefusal?_eq_none refusal
    refine .inr ⟨record, found, free, ?_⟩
    have moved : move bench.devices device newName =
        (bench.devices.erase device).insert newName record := by
      rw [move, show bench.devices.get? device = some record from found]
    simp only [rename, refusal]
    rw [← moved]
    rfl

theorem perform_calls (bench : Bench) (call : Call) :
    (bench.perform call).calls = bench.calls ++ [call] := by
  cases call with
  | generate =>
    simp only [perform, generate]
    split <;> rfl
  | rename device newName =>
    rcases rename_cases device newName bench with ⟨reason, refused⟩ | ⟨record, _, _, moved⟩
    · rw [perform, refused]; rfl
    · rw [perform, moved]; rfl
  | _ => rfl

theorem setup_perform (bench : Bench) (call : Call) : (bench.perform call).setup = bench.setup := by
  cases call with
  | generate =>
    simp only [perform, generate]
    split <;> rfl
  | rename device newName =>
    rcases rename_cases device newName bench with ⟨reason, refused⟩ | ⟨record, _, _, moved⟩
    · rw [perform, refused]; rfl
    · rw [perform, moved]; rfl
  | _ => rfl

theorem replay_calls (bench : Bench) (calls : CallLog) :
    (bench.replay calls).calls = bench.calls ++ calls := by
  induction calls generalizing bench with
  | nil => simp
  | cons call rest ih => rw [replay_cons, ih, perform_calls, List.append_assoc, List.singleton_append]

theorem setup_replay (bench : Bench) (calls : CallLog) : (bench.replay calls).setup = bench.setup := by
  induction calls generalizing bench with
  | nil => rfl
  | cons call rest ih => rw [replay_cons, ih, setup_perform]

/-- What is read of the setup alone reads the same after any calls. -/
theorem read_replay {α : Type} (read : Bench → α) (ofSetup : ∀ bench : Bench, read bench.setup = read bench)
    (bench : Bench) (calls : CallLog) : read (bench.replay calls) = read bench := by
  rw [← ofSetup, setup_replay, ofSetup]

@[simp] theorem units_replay (bench : Bench) (calls : CallLog) : (bench.replay calls).units = bench.units :=
  read_replay Bench.units (fun _ => rfl) bench calls

@[simp] theorem managerRuns_replay (bench : Bench) (calls : CallLog) :
    (bench.replay calls).managerRuns = bench.managerRuns :=
  read_replay Bench.managerRuns (fun _ => rfl) bench calls

@[simp] theorem enumerationFails_replay (bench : Bench) (calls : CallLog) :
    (bench.replay calls).enumerationFails = bench.enumerationFails :=
  read_replay Bench.enumerationFails (fun _ => rfl) bench calls

@[simp] theorem settleFails_replay (bench : Bench) (calls : CallLog) :
    (bench.replay calls).settleFails = bench.settleFails :=
  read_replay Bench.settleFails (fun _ => rfl) bench calls

@[simp] theorem generatorExit_replay (bench : Bench) (calls : CallLog) :
    (bench.replay calls).generatorExit = bench.generatorExit :=
  read_replay Bench.generatorExit (fun _ => rfl) bench calls

/-- The move that a call makes: that of a rename which succeeds. -/
def move? (bench : Bench) : Call → Option (String × String)
  | .rename device newName =>
    match bench.rename device newName with
    | (.ok _, _) => some (device, newName)
    | (.error _, _) => none
  | _ => none

def moves (bench : Bench) : CallLog → List (String × String)
  | [] => []
  | call :: rest => (bench.move? call).toList ++ (bench.perform call).moves rest

def failureOf : Except Failure Unit → Option Failure
  | .ok _ => none
  | .error failure => some failure

def refusal? (bench : Bench) : Call → Option Failure
  | .generate | .managerRunning => none
  | .backend backend action units sync => failureOf (control backend action units sync bench).1
  | .disconnect device => failureOf (disconnect device bench).1
  | .linkRules device => failureOf (applyLinkRules device bench).1
  | .rename device newName => failureOf (rename device newName bench).1
  | .settle => failureOf bench.settle.1

/-- The phase and the item under which a failure of a call is reported; those of the others are not. -/
def reported? : Call → Option (Phase × String)
  | .backend backend .stop _ _ => some (.stop, backend.service)
  | .backend backend .start _ _ => some (.start, backend.service)
  | .linkRules device => some (.linkRules, device)
  | .rename device _ => some (.rename, device)
  | .generate | .managerRunning | .disconnect _ | .settle => none

def trouble? (bench : Bench) (call : Call) : Option ItemFailure :=
  (reported? call).bind fun place => (bench.refusal? call).map fun failure => ⟨place.1, place.2, failure⟩

def troubles (bench : Bench) : CallLog → List ItemFailure
  | [] => []
  | call :: rest => (bench.trouble? call).toList ++ (bench.perform call).troubles rest

theorem moves_append (bench : Bench) (first second : CallLog) :
    bench.moves (first ++ second) = bench.moves first ++ (bench.replay first).moves second := by
  induction first generalizing bench with
  | nil => rfl
  | cons call rest ih => simp [moves, ih, List.append_assoc]

theorem troubles_append (bench : Bench) (first second : CallLog) :
    bench.troubles (first ++ second) = bench.troubles first ++ (bench.replay first).troubles second := by
  induction first generalizing bench with
  | nil => rfl
  | cons call rest ih => simp [troubles, ih, List.append_assoc]

/-- Failures of the rename phase are reported of renames only. -/
theorem trouble?_phase {call : Call} {failure : ItemFailure} (found : bench.trouble? call = some failure) :
    failure.phase = .rename ↔ ∃ device newName, call = .rename device newName := by
  obtain ⟨place, reported, mapped⟩ := Option.bind_eq_some_iff.mp found
  obtain ⟨cause, _, rfl⟩ := Option.map_eq_some_iff.mp mapped
  cases call with
  | backend backend action units sync =>
    cases action <;> cases reported <;> simp
  | _ => cases reported <;> simp

theorem mem_troubles {failure : ItemFailure} (member : failure ∈ bench.troubles calls) :
    ∃ call ∈ calls, ∃ now : Bench, now.trouble? call = some failure := by
  induction calls generalizing bench with
  | nil => simp [troubles] at member
  | cons call rest ih =>
    rcases List.mem_append.mp member with here | later
    · exact ⟨call, List.mem_cons_self, bench, Option.mem_toList.mp here⟩
    · obtain ⟨other, listed, now, found⟩ := ih later
      exact ⟨other, List.mem_cons_of_mem call listed, now, found⟩

theorem perform_rename_cases (bench : Bench) (device newName : String) :
    (bench.move? (.rename device newName) = none ∧ (bench.perform (.rename device newName)).devices = bench.devices) ∨
      ∃ record, bench.move? (.rename device newName) = some (device, newName) ∧
        bench.devices.get? device = some record ∧ bench.devices.get? newName = none ∧
        (bench.perform (.rename device newName)).devices = (bench.devices.erase device).insert newName record := by
  rcases rename_cases device newName bench with ⟨reason, refused⟩ | ⟨record, found, free, moved⟩
  · refine .inl ⟨by simp [move?, refused], ?_⟩
    rw [perform, refused]
    rfl
  · refine .inr ⟨record, by simp [move?, moved], found, free, ?_⟩
    rw [perform, moved]

/-- All that a call can do to the devices: nothing, or one move to a free name. -/
theorem perform_cases (bench : Bench) (call : Call) :
    (bench.move? call = none ∧ (bench.perform call).devices = bench.devices) ∨
      ∃ device newName record, call = .rename device newName ∧
        bench.move? call = some (device, newName) ∧ bench.devices.get? device = some record ∧
        bench.devices.get? newName = none ∧
        (bench.perform call).devices = (bench.devices.erase device).insert newName record := by
  cases call with
  | generate =>
    refine .inl ⟨rfl, ?_⟩
    simp only [perform, generate]
    split <;> rfl
  | rename device newName =>
    rcases bench.perform_rename_cases device newName with still | ⟨record, moved⟩
    · exact .inl still
    · exact .inr ⟨device, newName, record, rfl, moved⟩
  | _ => exact .inl ⟨rfl, rfl⟩

/-- A rename that is called for either succeeds or is reported, and not both. -/
theorem refusal?_rename_eq_none_iff :
    bench.refusal? (.rename device newName) = none ↔
      bench.move? (.rename device newName) = some (device, newName) := by
  rcases rename_cases device newName bench with ⟨reason, refused⟩ | ⟨record, _, _, moved⟩
  · simp [refusal?, failureOf, move?, refused]
  · simp [refusal?, failureOf, move?, moved]

/-- A device stays where it is while calls rename only others. -/
theorem get?_replay_of_not_renamed (found : bench.devices.get? device = some record)
    (spared : ∀ newName, .rename device newName ∉ calls) :
    (bench.replay calls).devices.get? device = some record := by
  induction calls generalizing bench with
  | nil => exact found
  | cons call rest ih =>
    refine ih ?_ fun newName later => spared newName (List.mem_cons_of_mem call later)
    rcases bench.perform_cases call with ⟨_, same⟩ | ⟨other, newName, moved, rfl, _, _, free, changed⟩
    · rw [same]
      exact found
    · have differs : device ≠ other := by
        rintro rfl
        exact spared newName List.mem_cons_self
      have apart : device ≠ newName := by
        rintro rfl
        rw [found] at free
        cases free
      simp [changed, differs, apart, found]

theorem replay_devices_of_no_rename (spared : ∀ device newName, .rename device newName ∉ calls) :
    (bench.replay calls).devices = bench.devices := by
  induction calls generalizing bench with
  | nil => rfl
  | cons call rest ih =>
    rw [replay_cons, ih fun device newName later => spared device newName (List.mem_cons_of_mem call later)]
    rcases bench.perform_cases call with ⟨_, same⟩ | ⟨device, newName, _, rfl, _⟩
    · exact same
    · exact absurd List.mem_cons_self (spared device newName)

theorem moves_of_no_rename (spared : ∀ device newName, .rename device newName ∉ calls) :
    bench.moves calls = [] := by
  induction calls generalizing bench with
  | nil => rfl
  | cons call rest ih =>
    rw [moves, ih fun device newName later => spared device newName (List.mem_cons_of_mem call later),
      List.append_nil]
    rcases bench.perform_cases call with ⟨none, _⟩ | ⟨device, newName, _, rfl, _⟩
    · simp [none]
    · exact absurd List.mem_cons_self (spared device newName)

end Relink.Bench
