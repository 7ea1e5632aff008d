import Relink.Proofs.Plan
import Relink.Proofs.Replay

/-! The renames of a plan, seen from the moment at which each is called for: earlier renames of the plan do not
touch the device, so planning at that moment would still choose the same name. -/

namespace Relink.Bench

variable {declared : Declared} {bench other : Bench} {device newName : String}

def Device.nameByDriver? (declared : Declared) (record : Device) : Option String :=
  record.driver.bind (MatchTables.ofRules declared.rules).forDriver?

def Device.nameByAddress? (declared : Declared) (record : Device) : Option String :=
  record.address.bind (MatchTables.ofRules declared.rules).forAddress?

/-- A device to which the rules do not give one name by its driver and another one by its address. -/
def Device.Unambiguous (declared : Declared) (record : Device) : Prop :=
  ∀ byDriver byAddress, record.nameByDriver? declared = some byDriver →
    record.nameByAddress? declared = some byAddress → byDriver = byAddress

/-- The new name that a device on the bench would get now. -/
def target? (declared : Declared) (bench : Bench) (device : String) : Option String :=
  Plan.targetFor? declared (MatchTables.ofRules declared.rules) bench.inventory device

theorem target?_eq_some_iff :
    bench.target? declared device = some newName ↔
      declared.isPhysical device = true ∧ Composite.isMember declared.composites device = false ∧
        ∃ record, bench.devices.get? device = some record ∧ record.state = some "down" ∧
          Plan.preferred device (record.nameByDriver? declared) (record.nameByAddress? declared) =
            some newName := by
  rw [target?, Plan.targetFor?_eq_some_iff]
  cases found : bench.devices.get? device with
  | none => simp [inventory, found]
  | some record =>
    cases state : record.state with
    | none => simp [inventory, found, state]
    | some word => simp [inventory, found, state, Device.nameByDriver?, Device.nameByAddress?]

theorem target?_congr (same : bench.devices.get? device = other.devices.get? device) :
    bench.target? declared device = other.target? declared device := by
  refine Option.ext fun newName => ?_
  rw [target?_eq_some_iff, target?_eq_some_iff, same]

theorem get?_plan (declared : Declared) (bench : Bench) (device : String) :
    (Plan.ofInterfaces declared bench.inventory bench.devices.names).get? device = bench.target? declared device := by
  rw [Plan.get?_ofInterfaces]
  split
  · rfl
  · rename_i absent
    refine (Option.eq_none_iff_forall_ne_some.mpr fun newName target => ?_).symm
    obtain ⟨_, _, record, found, _⟩ := target?_eq_some_iff.mp target
    exact absent (bench.devices.mem_names_iff.mpr ⟨record, found⟩)

/-- A bench with two cards and what is declared of them: the second one shall get the name that the first one gives
up. A third card is declared but not there. -/
def cards : Declared × Bench :=
  (⟨[⟨"eth0", some "lan0", some ⟨some "e1000", none⟩⟩, ⟨"eth1", some "eth0", some ⟨some "r8169", none⟩⟩,
      ⟨"eth2", some "lan2", some ⟨some "igb", none⟩⟩], []⟩,
    { devices := Table.ofList
        [("eth0", ⟨some "down", some "e1000", none⟩), ("eth1", ⟨some "down", some "r8169", none⟩)] })

/-- Each rename among some calls is, at the moment of the call, the one that planning would choose. -/
def Timely (declared : Declared) : Bench → CallLog → Prop
  | _, [] => True
  | bench, call :: rest =>
    (∀ device newName, call = .rename device newName → bench.target? declared device = some newName) ∧
      Timely declared (bench.perform call) rest

theorem timely_append {first second : CallLog} :
    bench.Timely declared (first ++ second) ↔
      bench.Timely declared first ∧ (bench.replay first).Timely declared second := by
  induction first generalizing bench with
  | nil => simp [Timely]
  | cons call rest ih => simp only [List.cons_append, Timely, ih, replay_cons, and_assoc]

theorem timely_of_no_rename {calls : CallLog} (spared : ∀ device newName, .rename device newName ∉ calls) :
    bench.Timely declared calls := by
  induction calls generalizing bench with
  | nil => trivial
  | cons call rest ih =>
    refine ⟨?_, ih fun device newName later => spared device newName (List.mem_cons_of_mem call later)⟩
    rintro device newName rfl
    exact absurd List.mem_cons_self (spared device newName)

theorem timely_of_splits {calls : CallLog}
    (timed : ∀ earlier device newName later, calls = earlier ++ .rename device newName :: later →
      (bench.replay earlier).target? declared device = some newName) : bench.Timely declared calls := by
  induction calls generalizing bench with
  | nil => trivial
  | cons call rest ih =>
    refine ⟨?_, ih fun earlier device newName later split => ?_⟩
    · rintro device newName rfl
      exact timed [] device newName rest rfl
    · exact timed (call :: earlier) device newName later (congrArg (call :: ·) split)

end Relink.Bench

namespace Relink.Plan

variable {declared : Declared} {bench : Bench} {devices : List String} {device newName : String}
variable {earlier later : CallLog}

def calls (plan : Plan) : CallLog :=
  plan.entries.map fun entry => .rename entry.1 entry.2

theorem mem_calls_iff (plan : Plan) : .rename device newName ∈ plan.calls ↔ plan.get? device = some newName := by
  rw [plan.get?_eq_some_iff, calls, List.mem_map]
  constructor
  · rintro ⟨entry, member, same⟩
    cases same
    exact member
  · intro member
    exact ⟨(device, newName), member, rfl⟩

/-- No device is renamed twice by a plan. -/
theorem not_mem_earlier_calls {plan : Plan} (split : plan.calls = earlier ++ .rename device newName :: later)
    (name : String) : .rename device name ∉ earlier := by
  intro member
  obtain ⟨before, after, entries, rfl, rest⟩ := List.map_eq_append_iff.mp split
  obtain ⟨entry, present, first⟩ := List.mem_map.mp member
  obtain ⟨second, tail, rfl, this, _⟩ := List.map_eq_cons_iff.mp rest
  have less : entry.1 < second.1 := by
    have ordered := plan.ordered
    rw [entries] at ordered
    exact (List.pairwise_append.mp ordered).2.2 entry present second List.mem_cons_self
  rw [(Call.rename.inj first).1, (Call.rename.inj this).1] at less
  exact String.lt_irrefl device less

theorem present_of_mem_entries {entry : String × String}
    (member : entry ∈ (ofInterfaces declared bench.inventory devices).entries) :
    ∃ record, bench.devices.get? entry.1 = some record := by
  obtain ⟨_, target⟩ := mem_entries_ofInterfaces.mp member
  obtain ⟨_, _, record, found, _⟩ := Bench.target?_eq_some_iff.mp target
  exact ⟨record, found⟩

/-- At the moment at which a rename of a plan is called for, the device still is what it was planned for. -/
theorem target?_at_call
    (split : (ofInterfaces declared bench.inventory devices).calls =
      earlier ++ .rename device newName :: later) :
    device ∈ devices ∧ (bench.replay earlier).target? declared device = some newName := by
  have member : .rename device newName ∈ (ofInterfaces declared bench.inventory devices).calls := by
    simp [split]
  have planned := (mem_calls_iff _).mp member
  rw [get?_ofInterfaces] at planned
  split at planned
  · rename_i listed
    have target : bench.target? declared device = some newName := planned
    obtain ⟨_, _, record, found, _⟩ := Bench.target?_eq_some_iff.mp target
    refine ⟨listed, ?_⟩
    rw [← target]
    refine Bench.target?_congr ?_
    rw [found]
    exact Bench.get?_replay_of_not_renamed found (not_mem_earlier_calls split)
  · cases planned

theorem timely_calls (declared : Declared) (bench : Bench) (devices : List String) :
    bench.Timely declared (ofInterfaces declared bench.inventory devices).calls :=
  Bench.timely_of_splits fun _ _ _ _ split => (target?_at_call split).2

end Relink.Plan
