import Mathlib.Data.List.Induction
import Relink.Proofs.Plan

/-! The names that rules give, rule by rule: a look-up in the tables finds the target of the last rule that gives one, an
address that cannot be read counts as none, and a plan is told by those targets alone. -/

namespace List

theorem getLast?_filter_eq_some_iff {α : Type} {test : α → Bool} {items : List α} {item : α} :
    (items.filter test).getLast? = some item ↔
      ∃ before after, items = before ++ item :: after ∧ test item = true ∧ ∀ later ∈ after, test later = false := by
  rw [getLast?_eq_head?_reverse, ← filter_reverse, head?_filter, find?_eq_some_iff_append]
  simp only [Bool.not_eq_true']
  constructor
  · rintro ⟨passes, after, before, split, fail⟩
    refine ⟨before.reverse, after.reverse, ?_, passes, by simpa using fail⟩
    rw [← reverse_reverse items, split]
    simp
  · rintro ⟨before, after, rfl, passes, fail⟩
    exact ⟨passes, after.reverse, before.reverse, by simp, by simpa using fail⟩

end List

namespace Relink

open Link (Mac)

def Criteria.asksDriver (driver : String) (criteria : Criteria) : Bool :=
  criteria.driver == some driver

/-- Whether criteria ask for an address, however they spell it. -/
def Criteria.asksAddress (address : Mac) (criteria : Criteria) : Bool :=
  criteria.address.any fun text => (Mac.parse text).toOption == some address

theorem Criteria.asksDriver_eq_true_iff {criteria : Criteria} {driver : String} :
    criteria.asksDriver driver = true ↔ criteria.driver = some driver := beq_iff_eq

theorem Criteria.asksAddress_eq_true_iff {criteria : Criteria} {address : Mac} :
    criteria.asksAddress address = true ↔ ∃ text, criteria.address = some text ∧ Mac.parse text = .ok address := by
  rw [asksAddress, Option.any_eq_true]
  refine exists_congr fun text => and_congr_right fun _ => ?_
  cases Mac.parse text <;> simp [Except.toOption]

namespace Rule

variable {fits : Criteria → Bool}

/-- Whether a rule gives a name to what fits its criteria: it is not the renderer's, and it has a target and criteria. -/
def gives (fits : Criteria → Bool) (rule : Rule) : Bool :=
  !rule.isRenderer && rule.target.isSome && rule.criteria.any fits

/-- The target of the last rule that gives one to what fits. -/
def lastTarget? (fits : Criteria → Bool) (rules : List Rule) : Option String :=
  (rules.filter (gives fits)).getLast?.bind (·.target)

theorem lastTarget?_concat (fits : Criteria → Bool) (rules : List Rule) (rule : Rule) :
    lastTarget? fits (rules ++ [rule]) = if rule.gives fits then rule.target else lastTarget? fits rules := by
  cases given : rule.gives fits <;> simp [lastTarget?, given]

/-- A rule that counts, with the name that it gives and what it gives it to: it is not the renderer's, and it has a target
and criteria. -/
structure Effective (rule : Rule) (target : String) (criteria : Criteria) : Prop where
  link : rule.id ≠ rendererKey
  target : rule.target = some target
  criteria : rule.criteria = some criteria

/-- Rules of which none that counts is for what fits. -/
def NoneGives (Fits : Criteria → Prop) (rules : List Rule) : Prop :=
  ∀ rule ∈ rules, ∀ target criteria, rule.Effective target criteria → ¬Fits criteria

/-- Rules of which the last that counts and is for what fits gives a name. -/
def LastGives (Fits : Criteria → Prop) (rules : List Rule) (target : String) : Prop :=
  ∃ before rule criteria after, rules = before ++ rule :: after ∧ rule.Effective target criteria ∧ Fits criteria ∧
    NoneGives Fits after

variable {rules : List Rule} {rule : Rule} {target : String}

theorem gives_eq_true_iff :
    rule.gives fits = true ↔ ∃ target criteria, rule.Effective target criteria ∧ fits criteria = true := by
  simp only [gives, isRenderer, Bool.and_eq_true, Bool.not_eq_true', beq_eq_false_iff_ne, Option.isSome_iff_exists,
    Option.any_eq_true]
  constructor
  · rintro ⟨⟨link, target, named⟩, criteria, asked, fit⟩
    exact ⟨target, criteria, ⟨link, named, asked⟩, fit⟩
  · rintro ⟨target, criteria, ⟨link, named, asked⟩, fit⟩
    exact ⟨⟨link, target, named⟩, criteria, asked, fit⟩

theorem noneGives_iff : NoneGives (fits · = true) rules ↔ ∀ rule ∈ rules, rule.gives fits = false := by
  refine forall₂_congr fun rule member => ?_
  rw [← Bool.not_eq_true, gives_eq_true_iff]
  simp only [not_exists, not_and]

theorem lastTarget?_eq_none_iff : lastTarget? fits rules = none ↔ NoneGives (fits · = true) rules := by
  rw [lastTarget?, Option.bind_eq_none_iff, noneGives_iff]
  constructor
  · intro nameless rule member
    by_contra given
    have given : rule.gives fits = true := by simpa using given
    have present : rules.filter (gives fits) ≠ [] := List.ne_nil_of_mem (List.mem_filter.mpr ⟨member, given⟩)
    have found := List.getLast?_eq_some_getLast present
    obtain ⟨-, -, -, gives, -⟩ := List.getLast?_filter_eq_some_iff.mp found
    obtain ⟨target, criteria, effective, -⟩ := gives_eq_true_iff.mp gives
    cases effective.target.symm.trans (nameless _ found)
  · intro inert last found
    obtain ⟨before, after, rfl, gives, -⟩ := List.getLast?_filter_eq_some_iff.mp found
    cases gives.symm.trans (inert last (by simp))

theorem lastTarget?_eq_some_iff : lastTarget? fits rules = some target ↔ LastGives (fits · = true) rules target := by
  simp only [lastTarget?, Option.bind_eq_some_iff, List.getLast?_filter_eq_some_iff, LastGives]
  constructor
  · rintro ⟨rule, ⟨before, after, split, gives, inert⟩, named⟩
    obtain ⟨other, criteria, effective, fit⟩ := gives_eq_true_iff.mp gives
    obtain rfl : other = target := Option.some.inj (effective.target.symm.trans named)
    exact ⟨before, rule, criteria, after, split, effective, fit, noneGives_iff.mpr inert⟩
  · rintro ⟨before, rule, criteria, after, split, effective, fit, inert⟩
    exact ⟨rule, ⟨before, after, split, gives_eq_true_iff.mpr ⟨target, criteria, effective, fit⟩,
      noneGives_iff.mp inert⟩, effective.target⟩

end Rule

namespace MatchTables

theorem add_cases (tables : MatchTables) (rule : Rule) :
    ((∀ fits, rule.gives fits = false) ∧ tables.add rule = tables) ∨
      ∃ target criteria, rule.target = some target ∧ (∀ fits, rule.gives fits = fits criteria) ∧
        tables.add rule = tables.note target criteria := by
  obtain ⟨id, target, criteria⟩ := rule
  cases skipped : Rule.isRenderer ⟨id, target, criteria⟩ with
  | true => exact .inl ⟨fun fits => by simp [Rule.gives, skipped], by simp [add, skipped]⟩
  | false =>
    cases target with
    | none => exact .inl ⟨fun fits => by simp [Rule.gives], by simp [add, skipped]⟩
    | some name =>
      cases criteria with
      | none => exact .inl ⟨fun fits => by simp [Rule.gives], by simp [add, skipped]⟩
      | some asked => exact .inr ⟨name, asked, rfl, fun fits => by simp [Rule.gives, skipped], by simp [add, skipped]⟩

theorem forDriver?_note (tables : MatchTables) (target driver : String) (criteria : Criteria) :
    (tables.note target criteria).forDriver? driver =
      if criteria.asksDriver driver then some target else tables.forDriver? driver := by
  cases asked : criteria.driver with
  | none => simp [note, forDriver?, Criteria.asksDriver, asked]
  | some other =>
    by_cases same : driver = other
    · simp [note, forDriver?, Criteria.asksDriver, asked, same]
    · simp [note, forDriver?, Criteria.asksDriver, asked, List.lookup_cons, beq_eq_false_iff_ne.mpr same, Ne.symm same]

/-- An address that cannot be read is nobody's. -/
theorem forAddress?_note (tables : MatchTables) (target : String) (address : Mac) (criteria : Criteria) :
    (tables.note target criteria).forAddress? address =
      if criteria.asksAddress address then some target else tables.forAddress? address := by
  cases spelled : criteria.address with
  | none => simp [note, forAddress?, Criteria.asksAddress, spelled]
  | some text =>
    cases read : Mac.parse text with
    | error cause => simp [note, forAddress?, Criteria.asksAddress, spelled, read, Except.toOption]
    | ok other =>
      by_cases same : address = other
      · simp [note, forAddress?, Criteria.asksAddress, spelled, read, Except.toOption, same]
      · simp [note, forAddress?, Criteria.asksAddress, spelled, read, Except.toOption, List.lookup_cons,
          beq_eq_false_iff_ne.mpr same, Ne.symm same]

/-- A look-up that each note overrides for what fits it finds what the last rule gives. -/
theorem read_ofRules (read : MatchTables → Option String) {fits : Criteria → Bool} (start : read empty = none)
    (noted : ∀ tables target criteria,
      read (note tables target criteria) = if fits criteria then some target else read tables)
    (rules : List Rule) : read (ofRules rules) = Rule.lastTarget? fits rules := by
  induction rules using List.reverseRecOn with
  | nil => exact start
  | append_singleton rules rule ih =>
    have last : ofRules (rules ++ [rule]) = (ofRules rules).add rule := List.foldl_append
    rw [last, Rule.lastTarget?_concat, ← ih]
    rcases (ofRules rules).add_cases rule with ⟨inert, same⟩ | ⟨target, criteria, named, gives, added⟩
    · rw [same, inert, if_neg Bool.false_ne_true]
    · rw [added, noted, gives, named]

theorem forDriver?_ofRules (rules : List Rule) (driver : String) :
    (ofRules rules).forDriver? driver = Rule.lastTarget? (Criteria.asksDriver driver) rules :=
  read_ofRules (forDriver? · driver) rfl (forDriver?_note · · driver) rules

theorem forAddress?_ofRules (rules : List Rule) (address : Mac) :
    (ofRules rules).forAddress? address = Rule.lastTarget? (Criteria.asksAddress address) rules :=
  read_ofRules (forAddress? · address) rfl (forAddress?_note · · address) rules

/-- Nothing is given a name exactly if no look-up finds one. -/
theorem isEmpty_iff (tables : MatchTables) : tables.isEmpty = true ↔
    (∀ driver, tables.forDriver? driver = none) ∧ ∀ address, tables.forAddress? address = none := by
  constructor
  · exact fun empty => ⟨forDriver?_of_isEmpty empty, forAddress?_of_isEmpty empty⟩
  · rintro ⟨drivers, addresses⟩
    obtain ⟨byDriver, byAddress⟩ := tables
    cases byDriver with
    | cons entry rest => simpa [forDriver?] using drivers entry.1
    | nil =>
      cases byAddress with
      | cons entry rest => simpa [forAddress?] using addresses entry.1
      | nil => rfl

/-- An address that cannot be read counts no more than one that is left out. -/
theorem ofRules_unreadable {before after : List Rule} {rule : Rule} {criteria : Criteria} {text : String}
    (asked : rule.criteria = some criteria) (spelled : criteria.address = some text)
    (unreadable : ∀ address, Mac.parse text ≠ .ok address) :
    ofRules (before ++ rule :: after) =
      ofRules (before ++ { rule with criteria := some { criteria with address := none } } :: after) := by
  have noted (tables : MatchTables) (target : String) :
      tables.note target criteria = tables.note target { criteria with address := none } := by
    cases read : Mac.parse text with
    | ok address => exact absurd read (unreadable address)
    | error cause => simp [note, spelled, read]
  have added (tables : MatchTables) :
      tables.add rule = tables.add { rule with criteria := some { criteria with address := none } } := by
    rw [add, add, asked]
    cases rule.target with
    | none => rfl
    | some target =>
      dsimp only
      rw [noted]
      rfl
  rw [ofRules, ofRules, List.foldl_append, List.foldl_append, List.foldl_cons, List.foldl_cons, added]

/-- A look-up finds the target of the last rule that counts and asks for what is looked up, an address in whatever spelling,
and nothing if there is none. Nothing at all is given a name exactly if no rule that counts asks for a driver or for an
address that can be read, and one that cannot be read might as well be left out. -/
theorem last_rule_prevails (rules : List Rule) :
    (∀ driver,
      (∀ target, (ofRules rules).forDriver? driver = some target ↔
        Rule.LastGives (fun criteria => criteria.driver = some driver) rules target) ∧
      ((ofRules rules).forDriver? driver = none ↔
        Rule.NoneGives (fun criteria => criteria.driver = some driver) rules)) ∧
    (∀ address,
      (∀ target, (ofRules rules).forAddress? address = some target ↔
        Rule.LastGives (fun criteria => ∃ text, criteria.address = some text ∧ Mac.parse text = .ok address) rules
          target) ∧
      ((ofRules rules).forAddress? address = none ↔
        Rule.NoneGives (fun criteria => ∃ text, criteria.address = some text ∧ Mac.parse text = .ok address) rules)) ∧
    ((ofRules rules).isEmpty = true ↔
      Rule.NoneGives (fun criteria => criteria.driver.isSome = true ∨
        ∃ text address, criteria.address = some text ∧ Mac.parse text = .ok address) rules) ∧
    ∀ before rule criteria text after, rules = before ++ rule :: after → rule.criteria = some criteria →
      criteria.address = some text → (∀ address, Mac.parse text ≠ .ok address) →
      ofRules rules = ofRules (before ++ { rule with criteria := some { criteria with address := none } } :: after) := by
  have drivers (driver : String) : (fun criteria => Criteria.asksDriver driver criteria = true) =
      fun criteria => criteria.driver = some driver := funext fun _ => propext Criteria.asksDriver_eq_true_iff
  have addresses (address : Mac) : (fun criteria => Criteria.asksAddress address criteria = true) =
      fun criteria => ∃ text, criteria.address = some text ∧ Mac.parse text = .ok address :=
    funext fun _ => propext Criteria.asksAddress_eq_true_iff
  refine ⟨fun driver => ⟨fun target => ?_, ?_⟩, fun address => ⟨fun target => ?_, ?_⟩, ?_, ?_⟩
  · rw [forDriver?_ofRules, Rule.lastTarget?_eq_some_iff, drivers]
  · rw [forDriver?_ofRules, Rule.lastTarget?_eq_none_iff, drivers]
  · rw [forAddress?_ofRules, Rule.lastTarget?_eq_some_iff, addresses]
  · rw [forAddress?_ofRules, Rule.lastTarget?_eq_none_iff, addresses]
  · simp only [isEmpty_iff, forDriver?_ofRules, forAddress?_ofRules, Rule.lastTarget?_eq_none_iff, drivers, addresses]
    constructor
    · rintro ⟨noDriver, noAddress⟩ rule member target criteria effective (driven | ⟨text, address, asked⟩)
      · obtain ⟨driver, asked⟩ := Option.isSome_iff_exists.mp driven
        exact noDriver driver rule member target criteria effective asked
      · exact noAddress address rule member target criteria effective ⟨text, asked⟩
    · intro none
      refine ⟨fun driver rule member target criteria effective asked => ?_,
        fun address rule member target criteria effective asked => ?_⟩
      · exact none rule member target criteria effective (.inl (Option.isSome_iff_exists.mpr ⟨driver, asked⟩))
      · obtain ⟨text, asked⟩ := asked
        exact none rule member target criteria effective (.inr ⟨text, address, asked⟩)
  · rintro before rule criteria text after rfl asked spelled unreadable
    exact ofRules_unreadable asked spelled unreadable

/-- Two rules for one driver, of which the later one has an address that cannot be read, and one for an address that the
rule before it spells in another way. -/
def contested : List Rule :=
  [⟨"a", some "lan0", some ⟨some "e1000", none⟩⟩, ⟨"b", some "lan1", some ⟨some "e1000", some "no address"⟩⟩,
    ⟨"c", some "wan0", some ⟨none, some "AA-B"⟩⟩, ⟨"d", some "wan1", some ⟨none, some "aa:0b"⟩⟩,
    ⟨"renderer", some "lan2", some ⟨some "e1000", none⟩⟩]

theorem last_rule_prevails_contested :
    (ofRules contested).forDriver? "e1000" = some "lan1" ∧ (ofRules contested).forDriver? "igb" = none ∧
      (∀ address, Mac.parse "AA-B" = .ok address → (ofRules contested).forAddress? address = some "wan1") ∧
      (ofRules contested).isEmpty = false ∧
      ofRules contested =
        ofRules (contested.take 1 ++ ⟨"b", some "lan1", some ⟨some "e1000", none⟩⟩ :: contested.drop 2) := by
  obtain ⟨drivers, addresses, empty, unreadable⟩ := last_rule_prevails contested
  refine ⟨((drivers _).1 _).mpr ?_, (drivers _).2.mpr fun rule member target criteria effective asked => ?_,
    fun address read => ((addresses _).1 _).mpr ?_, ?_, ?_⟩
  · have others : ∀ rule ∈ contested.drop 2, rule.id ≠ rendererKey →
        ∀ criteria ∈ rule.criteria, criteria.driver ≠ some "e1000" := by decide
    exact ⟨contested.take 1, _, _, contested.drop 2, rfl, ⟨by decide, rfl, rfl⟩, rfl,
      fun rule member target criteria effective => others rule member effective.link criteria effective.criteria⟩
  · have apart : ∀ rule ∈ contested, ∀ criteria ∈ rule.criteria, criteria.driver ≠ some "igb" := by decide
    exact apart rule member criteria effective.criteria asked
  · have respelled : Mac.parse "aa:0b" = .ok address := (rfl : _ = Mac.parse "AA-B").trans read
    have renderer : ∀ rule ∈ contested.drop 4, rule.id = rendererKey := by decide
    exact ⟨contested.take 3, _, _, contested.drop 4, rfl, ⟨by decide, rfl, rfl⟩, ⟨_, rfl, respelled⟩,
      fun rule member target criteria effective => absurd (renderer rule member) effective.link⟩
  · rw [← Bool.not_eq_true, empty]
    exact fun none => none _ List.mem_cons_self "lan0" _ ⟨by decide, rfl, rfl⟩ (.inl rfl)
  · have refused : Mac.parse "no address" = .error (.macAddress "no address") := rfl
    exact unreadable (contested.take 1) _ _ _ (contested.drop 2) rfl rfl rfl (by simp [refused])

end MatchTables

namespace Plan

def targetByDriver? (declared : Declared) (inventory : Inventory) (device : String) : Option String :=
  (inventory.driverName device).bind fun driver => Rule.lastTarget? (Criteria.asksDriver driver) declared.rules

def targetByAddress? (declared : Declared) (inventory : Inventory) (device : String) : Option String :=
  (inventory.hardwareAddress device).bind fun address => Rule.lastTarget? (Criteria.asksAddress address) declared.rules

/-- The new name of a device hangs on nothing but what is read of the device itself. -/
theorem targetFor?_congr {declared : Declared} {tables : MatchTables} {inventory seen : Inventory} {device : String}
    (state : seen.operState device = inventory.operState device)
    (driver : seen.driverName device = inventory.driverName device)
    (address : seen.hardwareAddress device = inventory.hardwareAddress device) :
    targetFor? declared tables seen device = targetFor? declared tables inventory device := by
  simp only [targetFor?, Inventory.classify, state, driver, address]

/-- A device is to be renamed exactly if it is listed, declared, in no composite and down, and a rule gives it another
name: the name for its address if that is another one, else the name for its driver. Whatever else is listed, and
whatever is read of the other devices, makes no difference to it. -/
theorem get?_ofInterfaces_eq_some_iff (declared : Declared) (inventory : Inventory) (interfaces : List String)
    (device : String) :
    (∀ name, (ofInterfaces declared inventory interfaces).get? device = some name ↔
      device ∈ interfaces ∧
        (device ≠ rendererKey ∧ ∃ rule ∈ declared.rules, rule.id = device) ∧
        (∀ composite ∈ declared.composites, device ∉ composite.members.names) ∧
        inventory.operState device = .ok "down" ∧
        name ≠ device ∧
          (targetByAddress? declared inventory device = some name ∨
            (∀ given, targetByAddress? declared inventory device = some given → given = device) ∧
              targetByDriver? declared inventory device = some name)) ∧
    ∀ (seen : Inventory) (listed : List String), (device ∈ listed ↔ device ∈ interfaces) →
      seen.operState device = inventory.operState device →
      seen.driverName device = inventory.driverName device →
      seen.hardwareAddress device = inventory.hardwareAddress device →
      (ofInterfaces declared seen listed).get? device = (ofInterfaces declared inventory interfaces).get? device := by
  refine ⟨fun name => ?_, fun seen listed same state driver address => ?_⟩
  · have byDriver : (inventory.driverName device).bind (MatchTables.ofRules declared.rules).forDriver? =
        targetByDriver? declared inventory device :=
      congrArg (inventory.driverName device).bind (funext (MatchTables.forDriver?_ofRules declared.rules))
    have byAddress : (inventory.hardwareAddress device).bind (MatchTables.ofRules declared.rules).forAddress? =
        targetByAddress? declared inventory device :=
      congrArg (inventory.hardwareAddress device).bind (funext (MatchTables.forAddress?_ofRules declared.rules))
    have otherwise (given : Option String) :
        (given = none ∨ given = some device) ↔ ∀ other, given = some other → other = device := by
      cases given <;> simp
    rw [Table.get?_eq_some_iff, mem_entries_ofInterfaces, targetFor?_eq_some_iff, preferred_eq_some_iff,
      Declared.isPhysical_iff, Composite.isMember_eq_false_iff, byDriver, byAddress, otherwise]
  · rw [get?_ofInterfaces, get?_ofInterfaces, targetFor?_congr state driver address]
    simp only [same]

/-- Rules of which two name the devices of a driver and one, in another spelling, gives a device the name that it has,
with a host on which there is that device. -/
def atHome : Declared × Inventory :=
  (⟨[⟨"eth0", some "lan0", some ⟨some "e1000", none⟩⟩, ⟨"eth1", some "lan1", some ⟨some "e1000", some "none"⟩⟩,
      ⟨"eth2", some "eth0", some ⟨none, some " AA-B-0C "⟩⟩], []⟩,
    { interfaces := .ok ["eth0"]
      operState := fun _ => .ok "down"
      hardwareAddress := fun _ => Mac.ofOctets? [0xAA, 0x0B, 0x0C]
      driverName := fun _ => some "e1000" })

theorem get?_ofInterfaces_eq_some_iff_atHome :
    targetByAddress? atHome.1 atHome.2 "eth0" = some "eth0" ∧
      (ofInterfaces atHome.1 atHome.2 ["lo", "eth0", "eth0"]).get? "eth0" = some "lan1" := by
  have given : targetByAddress? atHome.1 atHome.2 "eth0" = some "eth0" := by decide
  refine ⟨given, ((get?_ofInterfaces_eq_some_iff atHome.1 atHome.2 ["lo", "eth0", "eth0"] "eth0").1 "lan1").mpr ?_⟩
  refine ⟨by decide, by decide, by decide, rfl, by decide, .inr ⟨fun other same => ?_, by decide⟩⟩
  exact Option.some.inj (same.symm.trans given)

end Plan

end Relink
