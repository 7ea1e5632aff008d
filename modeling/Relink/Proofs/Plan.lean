import Relink.Plan
import Relink.Proofs.Table

/-! When a device gets a new name, and which. Being in the plan depends on the device alone: on its name, its
record and the declared configuration, not on what else is in the list. -/

namespace Relink

theorem Link.OperState.parse_eq_ok_iff (text : String) (state : Link.OperState) :
    Link.OperState.parse text = .ok state ↔ text = state.toText := by
  constructor
  · intro accepted
    unfold Link.OperState.parse at accepted
    split at accepted
    · rename_i known found
      cases accepted
      have same := List.find?_some found
      exact (beq_iff_eq.mp same).symm
    · cases accepted
  · rintro rfl
    exact Link.OperState.parse_toText state

/-- A device may be renamed exactly if its state reads `down`. -/
theorem Inventory.classify_eligible_iff (inventory : Inventory) (device : String)
    (driver : Option String) :
    inventory.classify device = .ok (.eligible driver) ↔
      inventory.operState device = .ok "down" ∧ inventory.driverName device = driver := by
  unfold Inventory.classify
  cases read : inventory.operState device with
  | error cause => simp
  | ok word =>
    have known : (Link.OperState.parse word).toOption.getD .unknown = .down ↔ word = "down" := by
      cases parsed : Link.OperState.parse word with
      | error cause =>
        have unknown : word ≠ "down" := by
          intro same
          have accepted := (Link.OperState.parse_eq_ok_iff word .down).mpr same
          rw [parsed] at accepted
          cases accepted
        simp [Except.toOption, unknown]
      | ok state =>
        have spelled := (Link.OperState.parse_eq_ok_iff word state).mp parsed
        subst spelled
        cases state <;> simp [Except.toOption, Link.OperState.toText]
    by_cases down : word = "down"
    · simp only [if_pos (known.mpr down)]
      simp [down]
    · simp only [if_neg (mt known.mp down)]
      simp [down]

theorem Declared.isPhysical_iff (declared : Declared) (name : String) :
    declared.isPhysical name = true ↔
      name ≠ rendererKey ∧ ∃ rule ∈ declared.rules, rule.id = name := by
  simp [Declared.isPhysical]

theorem Composite.isMember_eq_false_iff (composites : List Composite) (name : String) :
    Composite.isMember composites name = false ↔
      ∀ composite ∈ composites, name ∉ composite.members.names := by
  rw [Composite.isMember, Composite.parentOf?, Option.isSome_eq_false_iff, Option.isNone_iff_eq_none,
    List.find?_eq_none]
  simp only [Table.contains_iff, Table.mem_names_iff]

theorem MatchTables.forDriver?_of_isEmpty {tables : MatchTables} (empty : tables.isEmpty = true)
    (driver : String) : tables.forDriver? driver = none := by
  simp only [MatchTables.isEmpty, Bool.and_eq_true, List.isEmpty_iff] at empty
  simp [MatchTables.forDriver?, empty.1]

theorem MatchTables.forAddress?_of_isEmpty {tables : MatchTables} (empty : tables.isEmpty = true)
    (address : Link.Mac) : tables.forAddress? address = none := by
  simp only [MatchTables.isEmpty, Bool.and_eq_true, List.isEmpty_iff] at empty
  simp [MatchTables.forAddress?, empty.2]

namespace Plan

variable {declared : Declared} {tables : MatchTables} {inventory : Inventory}
variable {device name : String} {byDriver byAddress : Option String}

/-- The name given by address counts unless the device has it; then the one given by driver does. -/
theorem preferred_eq_some_iff :
    preferred device byDriver byAddress = some name ↔
      name ≠ device ∧
        (byAddress = some name ∨ (byAddress = none ∨ byAddress = some device) ∧ byDriver = some name) := by
  have taken (given : Option String) : given.filter (· ≠ device) = some name ↔ name ≠ device ∧ given = some name := by
    simp [Option.filter_eq_some_iff, and_comm]
  have passed : byAddress.filter (· ≠ device) = none ↔ byAddress = none ∨ byAddress = some device := by
    cases byAddress with
    | none => simp
    | some given => simp [Option.filter_eq_none_iff]
  rw [preferred, Option.or_eq_some_iff, taken, passed, taken, and_left_comm, ← and_or_left]

/-- A device that took one name takes another one in turn exactly if the two names it was given differ. -/
theorem exists_preferred_again (first : preferred device byDriver byAddress = some name) :
    (∃ next, preferred name byDriver byAddress = some next) ↔
      ∃ other given, byDriver = some other ∧ byAddress = some given ∧ other ≠ given := by
  obtain ⟨differs, chosen⟩ := preferred_eq_some_iff.mp first
  simp only [preferred_eq_some_iff]
  constructor
  · rintro ⟨next, apart, again⟩
    grind
  · rintro ⟨other, given, rfl, rfl, apart⟩
    grind

theorem targetFor?_eq_some_iff :
    targetFor? declared tables inventory device = some name ↔
      declared.isPhysical device = true ∧ Composite.isMember declared.composites device = false ∧
        inventory.operState device = .ok "down" ∧
        preferred device ((inventory.driverName device).bind tables.forDriver?)
          ((inventory.hardwareAddress device).bind tables.forAddress?) = some name := by
  unfold targetFor?
  cases physical : declared.isPhysical device with
  | false => simp
  | true =>
    cases member : Composite.isMember declared.composites device with
    | true => simp
    | false =>
      simp only [Bool.not_true, Bool.false_eq_true, if_false, true_and]
      split
      · rename_i driver eligible
        obtain ⟨down, bound⟩ := (inventory.classify_eligible_iff device driver).mp eligible
        simp [down, bound]
      · rename_i other
        have notDown : inventory.operState device ≠ .ok "down" := by
          intro down
          exact other _ ((inventory.classify_eligible_iff device _).mpr ⟨down, rfl⟩)
        simp [notDown]

theorem targetFor?_of_isEmpty (empty : tables.isEmpty = true) :
    targetFor? declared tables inventory device = none := by
  refine Option.eq_none_iff_forall_ne_some.mpr fun name found => ?_
  have given := (preferred_eq_some_iff.mp (targetFor?_eq_some_iff.mp found).2.2.2).2
  have noDriver : (inventory.driverName device).bind tables.forDriver? = none := by
    cases inventory.driverName device <;> simp [MatchTables.forDriver?_of_isEmpty empty]
  have noAddress : (inventory.hardwareAddress device).bind tables.forAddress? = none := by
    cases inventory.hardwareAddress device <;> simp [MatchTables.forAddress?_of_isEmpty empty]
  simp [noDriver, noAddress] at given

theorem get?_ofInterfaces (declared : Declared) (inventory : Inventory) (interfaces : List String)
    (device : String) :
    (ofInterfaces declared inventory interfaces).get? device =
      if device ∈ interfaces then
        targetFor? declared (MatchTables.ofRules declared.rules) inventory device
      else none := by
  cases empty : (MatchTables.ofRules declared.rules).isEmpty with
  | true => simp [ofInterfaces, empty, targetFor?_of_isEmpty empty]
  | false =>
    simp only [ofInterfaces, empty, Bool.false_eq_true, if_false]
    exact Table.get?_ofList_filterMap
      (targetFor? declared (MatchTables.ofRules declared.rules) inventory) interfaces device

theorem mem_entries_ofInterfaces {interfaces : List String} {entry : String × String} :
    entry ∈ (ofInterfaces declared inventory interfaces).entries ↔
      entry.1 ∈ interfaces ∧
        targetFor? declared (MatchTables.ofRules declared.rules) inventory entry.1 = some entry.2 := by
  rw [← Table.get?_eq_some_iff, get?_ofInterfaces]
  split <;> simp [*]

end Plan

end Relink
