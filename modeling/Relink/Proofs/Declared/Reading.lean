import Relink.Declared.OfTree
import Relink.Proofs.Table
import Relink.Proofs.Yaml.Record

/-! What is read from a tree. A section's rules go in one after the other, whatever the tree is. From a plain tree the
whole configuration is read name by name, and which trees are accepted is told from their shape. -/

namespace Relink.Declared

open Yaml (Tree Mismatch)

section Rules

variable {rules new : List Rule} {rule other : Rule}

theorem map_id_putRule (distinct : (rules.map (·.id)).Nodup) (rule : Rule) :
    (putRule rule rules).map (·.id) = (rules.map (·.id) ++ [rule.id]).eraseDups := by
  rw [distinct.eraseDups_append_singleton]
  induction rules with
  | nil => rfl
  | cons first rest ih =>
    have later := ih (List.nodup_cons.mp distinct).2
    rw [putRule]
    by_cases here : first.id = rule.id
    · simp [here]
    · have apart : rule.id ≠ first.id := Ne.symm here
      by_cases present : rule.id ∈ rest.map (·.id) <;> simp_all

theorem mem_putRule (distinct : (rules.map (·.id)).Nodup) :
    other ∈ putRule rule rules ↔ other = rule ∨ other ∈ rules ∧ other.id ≠ rule.id := by
  induction rules with
  | nil => simp [putRule]
  | cons first rest ih =>
    obtain ⟨fresh, others⟩ := List.nodup_cons.mp distinct
    rw [putRule]
    split
    · rename_i here
      have apart : other ∈ rest → other.id ≠ rule.id := fun member same =>
        fresh (List.mem_map.mpr ⟨other, member, same.trans here.symm⟩)
      grind
    · have later := ih others
      grind

def putAll (rules new : List Rule) : List Rule :=
  new.foldl (fun rules rule => putRule rule rules) rules

theorem map_id_putAll (distinct : (rules.map (·.id)).Nodup) (new : List Rule) :
    (putAll rules new).map (·.id) = (rules.map (·.id) ++ new.map (·.id)).eraseDups := by
  induction new generalizing rules with
  | nil => simp [putAll, distinct.eraseDups_eq]
  | cons rule rest ih =>
    have ids := map_id_putRule distinct rule
    rw [putAll, List.foldl_cons, ← putAll, ih (ids ▸ List.eraseDups_nodup _), ids, List.eraseDups_append_eraseDups]
    simp

/-- Of the rules under one id the last that was put in stays. -/
theorem mem_putAll (distinct : (rules.map (·.id)).Nodup) (newDistinct : (new.map (·.id)).Nodup) :
    other ∈ putAll rules new ↔ other ∈ new ∨ other ∈ rules ∧ other.id ∉ new.map (·.id) := by
  induction new generalizing rules with
  | nil => simp [putAll]
  | cons rule rest ih =>
    obtain ⟨fresh, others⟩ := List.nodup_cons.mp newDistinct
    have ids := map_id_putRule distinct rule
    rw [putAll, List.foldl_cons, ← putAll, ih (ids ▸ List.eraseDups_nodup _) others, mem_putRule distinct]
    grind

theorem putRule_eq_map (distinct : (rules.map (·.id)).Nodup) (known : rule.id ∈ rules.map (·.id)) :
    putRule rule rules = rules.map fun other => if other.id = rule.id then rule else other := by
  induction rules with
  | nil => cases known
  | cons first rest ih =>
    obtain ⟨fresh, others⟩ := List.nodup_cons.mp distinct
    rw [putRule, List.map_cons]
    split
    · rename_i here
      have stay : ∀ other ∈ rest, (if other.id = rule.id then rule else other) = other := fun other member =>
        if_neg fun same => fresh (List.mem_map.mpr ⟨other, member, same.trans here.symm⟩)
      rw [List.map_congr_left stay, List.map_id']
    · rename_i apart
      have later : rule.id ∈ rest.map (·.id) := by simpa [Ne.symm apart] using known
      rw [ih others later]

/-- Rules with other ids are passed over. -/
theorem putRule_append_left {first : List Rule} (apart : rule.id ∉ first.map (·.id)) (rules : List Rule) :
    putRule rule (first ++ rules) = first ++ putRule rule rules := by
  induction first with
  | nil => rfl
  | cons other rest ih =>
    simp only [List.map_cons, List.mem_cons, not_or] at apart
    rw [List.cons_append, putRule, if_neg (Ne.symm apart.1), ih apart.2, List.cons_append]

theorem putRule_eq_append (fresh : rule.id ∉ rules.map (·.id)) : putRule rule rules = rules ++ [rule] := by
  simpa [putRule] using putRule_append_left fresh []

/-- A rule that is put in takes the place of the one with its id; rules with new ids come behind. -/
theorem putAll_eq (distinct : (rules.map (·.id)).Nodup) (newDistinct : (new.map (·.id)).Nodup) :
    putAll rules new = rules.map (fun rule => (new.find? (·.id = rule.id)).getD rule) ++
      new.filter (·.id ∉ rules.map (·.id)) := by
  induction new generalizing rules with
  | nil => simp [putAll]
  | cons rule rest ih =>
    obtain ⟨fresh, others⟩ := List.nodup_cons.mp newDistinct
    have unseen : rest.find? (·.id = rule.id) = none := by
      rw [List.find?_eq_none]
      intro other member
      simpa using fun same => fresh (List.mem_map.mpr ⟨other, member, same⟩)
    rw [putAll, List.foldl_cons, ← putAll]
    by_cases known : rule.id ∈ rules.map (·.id)
    · have ids : (putRule rule rules).map (·.id) = rules.map (·.id) := by
        rw [putRule_eq_map distinct known, List.map_map]
        refine List.map_congr_left fun other _ => ?_
        dsimp only [Function.comp_apply]
        split
        · rename_i same
          exact same.symm
        · rfl
      rw [ih (ids ▸ distinct) others, ids, putRule_eq_map distinct known, List.map_map,
        List.filter_cons_of_neg (by simpa using known)]
      congr 1
      refine List.map_congr_left fun other _ => ?_
      by_cases same : other.id = rule.id
      · simp [same, unseen]
      · simp [same, Ne.symm same]
    · have ids : (putRule rule rules).map (·.id) = rules.map (·.id) ++ [rule.id] := by
        rw [putRule_eq_append known, List.map_append, List.map_singleton]
      have kept : ((putRule rule rules).map (·.id)).Nodup :=
        map_id_putRule distinct rule ▸ List.eraseDups_nodup _
      rw [ih kept others, ids, putRule_eq_append known, List.map_append, List.map_singleton, unseen, Option.getD_none,
        List.append_assoc, List.filter_cons_of_pos (by simpa using known), List.singleton_append]
      congr 1
      · refine List.map_congr_left fun other member => ?_
        have apart : rule.id ≠ other.id := fun same => known (List.mem_map.mpr ⟨other, member, same.symm⟩)
        simp [apart]
      · congr 1
        refine List.filter_congr fun other member => ?_
        have apart : other.id ≠ rule.id := fun same => fresh (List.mem_map.mpr ⟨other, member, same⟩)
        simp [apart]

/-- Rules under ids that are not put in are passed over. -/
theorem putAll_append_left {first : List Rule} (apart : ∀ rule ∈ new, rule.id ∉ first.map (·.id)) (rules : List Rule) :
    putAll (first ++ rules) new = first ++ putAll rules new := by
  induction new generalizing rules with
  | nil => rfl
  | cons rule rest ih =>
    obtain ⟨here, apart⟩ := List.forall_mem_cons.mp apart
    simp only [putAll, List.foldl_cons, putRule_append_left here] at ih ⊢
    exact ih apart (putRule rule rules)

theorem putAll_nil (distinct : (rules.map (·.id)).Nodup) : putAll [] rules = rules := by
  simp [@putAll_eq [] _ .nil distinct]

theorem readRules_eq (rules : List Rule) (entries : List (String × Tree)) :
    readRules rules entries = (entries.mapM fun entry => readRule entry.1 entry.2).map (putAll rules) := by
  induction entries generalizing rules with
  | nil => rfl
  | cons entry rest ih =>
    obtain ⟨id, settings⟩ := entry
    rw [readRules, List.mapM_cons]
    cases readRule id settings with
    | error problem => rfl
    | ok rule =>
      simp only [ih]
      cases rest.mapM fun entry => readRule entry.1 entry.2 <;> rfl

end Rules

section Composites

def readComposite (name id : String) (settings : Tree) : Except Problem Composite :=
  if settings.isNull then .ok ⟨id, NameSet.ofNames []⟩
  else
    match readMembers settings with
    | .ok members => .ok ⟨id, NameSet.ofNames members⟩
    | .error mismatch => .error (.composite name id mismatch)

theorem readComposites_eq (name : String) (entries : List (String × Tree)) :
    readComposites name entries =
      (entries.filter (·.1 ≠ rendererKey)).mapM fun entry => readComposite name entry.1 entry.2 := by
  induction entries with
  | nil => rfl
  | cons entry rest ih =>
    obtain ⟨id, settings⟩ := entry
    rw [readComposites, ih, List.filter_cons]
    by_cases renderer : id = rendererKey
    · simp [renderer]
    · simp only [ne_eq, renderer, not_false_eq_true, decide_true, if_true, List.mapM_cons]
      rw [readComposite]
      cases settings.isNull with
      | true => rfl
      | false => cases readMembers settings <;> rfl

end Composites

section Plain

variable {tree : Tree}

structure CriteriaReadable (tree : Tree) : Prop where
  layer : tree.IsLayer
  driver : (tree.under "driver").IsText
  address : (tree.under "macaddress").IsText

/-- What a link is recognised by, as a tree says it. -/
def criteriaOf (tree : Tree) : Criteria where
  driver := (tree.under "driver").text?
  address := (tree.under "macaddress").text?

theorem CriteriaReadable.null : CriteriaReadable .null := ⟨.null, .null, .null⟩

theorem component_driver : Tree.Component criteriaField "driver" (Tree.readOption Tree.readText) Criteria.driver where
  own := ⟨_, rfl, Tree.map_get_of_put fun _ _ => rfl⟩
  others := by
    intro other take apart known
    unfold criteriaField at known
    split at known
    · exact absurd rfl apart
    · cases known
      exact Tree.get_of_put fun _ _ => rfl
    · cases known

theorem component_address :
    Tree.Component criteriaField "macaddress" (Tree.readOption Tree.readText) Criteria.address where
  own := ⟨_, rfl, Tree.map_get_of_put fun _ _ => rfl⟩
  others := by
    intro other take apart known
    unfold criteriaField at known
    split at known
    · cases known
      exact Tree.get_of_put fun _ _ => rfl
    · exact absurd rfl apart
    · cases known

theorem readCriteria_yields (plain : tree.Plain) :
    (readCriteria tree).Yields (CriteriaReadable tree) (criteriaOf tree) := by
  have driver := (plain.under "driver").readOption_yields
  have address := (plain.under "macaddress").readOption_yields
  refine .of_parts (fun criteria done => ?_) fun readable => ?_
  · obtain ⟨layer, readDriver⟩ := plain.get_readRecord component_driver rfl done
    obtain ⟨-, readAddress⟩ := plain.get_readRecord component_address rfl done
    obtain ⟨driverText, sameDriver⟩ := (driver _).mp readDriver
    obtain ⟨addressText, sameAddress⟩ := (address _).mp readAddress
    exact ⟨⟨layer, driverText, addressText⟩, by rw [criteriaOf, ← sameDriver, ← sameAddress]⟩
  · refine plain.exists_readRecord readable.layer fun name take known criteria => ?_
    unfold criteriaField at known
    split at known <;> cases known
    · exact ⟨_, (driver.map _).eq_ok readable.driver⟩
    · exact ⟨_, (address.map _).eq_ok readable.address⟩

/-- What a link is recognised by, if a tree says it. -/
def matchedBy (tree : Tree) : Option Criteria :=
  if tree.isNull then none else some (criteriaOf tree)

theorem isSome_matchedBy (tree : Tree) : (matchedBy tree).isSome = true ↔ tree.isNull = false := by
  rw [matchedBy]
  cases tree.isNull <;> simp

theorem eq_criteriaOf {criteria : Criteria} (found : criteria ∈ matchedBy tree) : criteria = criteriaOf tree := by
  rw [matchedBy] at found
  split at found
  · cases found
  · exact (Option.some.inj found).symm

theorem readOption_readCriteria_yields (plain : tree.Plain) :
    (tree.readOption readCriteria).Yields (CriteriaReadable tree) (matchedBy tree) := by
  by_cases empty : tree = .null
  · subst empty
    exact .ok .null
  · have given := plain.isNull_eq_false empty
    rw [Tree.readOption_of_ne_null _ empty, matchedBy, given]
    exact (readCriteria_yields plain).map some

structure LinkReadable (tree : Tree) : Prop where
  layer : tree.IsLayer
  criteria : CriteriaReadable (tree.under "match")
  target : (tree.under "set-name").IsText

/-- What the definition of a link says. -/
def settingsOf (tree : Tree) : Settings where
  criteria := matchedBy (tree.under "match")
  target := (tree.under "set-name").text?

theorem LinkReadable.null : LinkReadable .null := ⟨.null, .null, .null⟩

theorem component_criteria :
    Tree.Component settingsField "match" (Tree.readOption readCriteria) Settings.criteria where
  own := ⟨_, rfl, Tree.map_get_of_put fun _ _ => rfl⟩
  others := by
    intro other take apart known
    unfold settingsField at known
    split at known
    · exact absurd rfl apart
    · cases known
      exact Tree.get_of_put fun _ _ => rfl
    · cases known

theorem component_target :
    Tree.Component settingsField "set-name" (Tree.readOption Tree.readText) Settings.target where
  own := ⟨_, rfl, Tree.map_get_of_put fun _ _ => rfl⟩
  others := by
    intro other take apart known
    unfold settingsField at known
    split at known
    · cases known
      exact Tree.get_of_put fun _ _ => rfl
    · exact absurd rfl apart
    · cases known

theorem readSettings_yields (plain : tree.Plain) :
    (readSettings tree).Yields (LinkReadable tree) (settingsOf tree) := by
  have criteria := readOption_readCriteria_yields (plain.under "match")
  have target := (plain.under "set-name").readOption_yields
  refine .of_parts (fun settings done => ?_) fun readable => ?_
  · obtain ⟨layer, readMatch⟩ := plain.get_readRecord component_criteria rfl done
    obtain ⟨-, readTarget⟩ := plain.get_readRecord component_target rfl done
    obtain ⟨readable, sameCriteria⟩ := (criteria _).mp readMatch
    obtain ⟨targetText, sameTarget⟩ := (target _).mp readTarget
    exact ⟨⟨layer, readable, targetText⟩, by rw [settingsOf, ← sameCriteria, ← sameTarget]⟩
  · refine plain.exists_readRecord readable.layer fun name take known settings => ?_
    unfold settingsField at known
    split at known <;> cases known
    · exact ⟨_, (criteria.map _).eq_ok readable.criteria⟩
    · exact ⟨_, (target.map _).eq_ok readable.target⟩

def ruleOf (id : String) (tree : Tree) : Rule :=
  if id = rendererKey then ⟨id, none, none⟩
  else ⟨id, (settingsOf tree).target, (settingsOf tree).criteria⟩

@[simp] theorem ruleOf_id (id : String) (tree : Tree) : (ruleOf id tree).id = id := by
  rw [ruleOf]
  split <;> rfl

theorem readRule_yields (plain : tree.Plain) (id : String) :
    (readRule id tree).Yields (id ≠ rendererKey → LinkReadable tree) (ruleOf id tree) := by
  by_cases renderer : id = rendererKey
  · simpa [readRule, ruleOf, renderer] using .ok trivial
  · by_cases empty : tree = .null
    · subst empty
      simpa [readRule, ruleOf, renderer, Tree.isNull, Tree.untagged, LinkReadable.null] using .ok trivial
    · have given := plain.isNull_eq_false empty
      have read : readRule id tree =
          ((readSettings tree).map fun settings => ⟨id, settings.target, settings.criteria⟩).mapError
            (Problem.definition id) := by
        simp only [readRule, renderer, given]
        cases readSettings tree <;> rfl
      rw [read, ruleOf, if_neg renderer]
      exact (((readSettings_yields plain).map _).mapError _).iff (by simp [renderer])

structure CompositeReadable (tree : Tree) : Prop where
  layer : tree.IsLayer
  members : (tree.under "interfaces").IsTexts

theorem component_members : Tree.Component membersField "interfaces" Tree.readTexts fun members => members where
  own := by
    refine ⟨_, rfl, fun value members => ?_⟩
    cases value.readTexts <;> rfl
  others := by
    intro other take apart known value members next taken
    unfold membersField at known
    split at known
    · exact absurd rfl apart
    · cases known

theorem readMembers_yields (plain : tree.Plain) :
    (readMembers tree).Yields (CompositeReadable tree) (tree.under "interfaces").texts := by
  have listed := (plain.under "interfaces").readTexts_yields
  refine .of_parts (fun members done => ?_) fun readable => ?_
  · obtain ⟨layer, readListed⟩ := plain.get_readRecord component_members rfl done
    obtain ⟨texts, same⟩ := (listed _).mp readListed
    exact ⟨⟨layer, texts⟩, same⟩
  · refine plain.exists_readRecord readable.layer fun name take known members => ?_
    unfold membersField at known
    split at known <;> cases known
    exact ⟨_, listed.eq_ok readable.members⟩

def compositeOf (id : String) (tree : Tree) : Composite :=
  ⟨id, NameSet.ofNames (tree.under "interfaces").texts⟩

theorem CompositeReadable.null : CompositeReadable .null := ⟨.null, .null⟩

theorem readComposite_yields (plain : tree.Plain) (name id : String) :
    (readComposite name id tree).Yields (CompositeReadable tree) (compositeOf id tree) := by
  by_cases empty : tree = .null
  · subst empty
    exact .ok .null
  · have given := plain.isNull_eq_false empty
    have read : readComposite name id tree =
        ((readMembers tree).map fun members => ⟨id, NameSet.ofNames members⟩).mapError (Problem.composite name id) := by
      simp only [readComposite, given]
      cases readMembers tree <;> rfl
    rw [read]
    exact ((readMembers_yields plain).map _).mapError _

end Plain

section Sections

variable {tree definitions : Tree} {network : List (Tree × Tree)}

/-- The rules that a section of links makes, each by its id. -/
def rulesOf (definitions : Tree) : List Rule :=
  definitions.names.map fun id => ruleOf id (definitions.under id)

/-- The composites that a section makes, each by its id. -/
def compositesOf (definitions : Tree) : List Composite :=
  (definitions.names.filter (· ≠ rendererKey)).map fun id => compositeOf id (definitions.under id)

/-- A section whose definitions can be read, but for what stands under the renderer's key. -/
structure SectionReadable (Definition : Tree → Prop) (definitions : Tree) : Prop where
  layer : definitions.IsLayer
  each : ∀ id, id ≠ rendererKey → Definition (definitions.under id)

theorem sectionEntries_record {name : String} {entries : List (String × Tree)}
    (found : Tree.valueOf? name network = some (Tree.record entries)) : sectionEntries network name = .ok entries := by
  rw [sectionEntries, found]
  change List.mapM _ (Tree.named entries) = _
  rw [Tree.named, List.mapM_map]
  exact (Except.mapM_eq_ok fun _ _ => rfl).trans (congrArg Except.ok (List.map_id entries))

theorem sectionEntries_yields (plain : (Tree.mapping network).Plain) (name : String) :
    (sectionEntries network name).Yields ((Tree.mapping network).under name).IsLayer
      ((Tree.mapping network).under name).namedEntries := by
  have plainSection := plain.under name
  rw [Tree.under] at plainSection ⊢
  cases found : Tree.valueOf? name network with
  | none =>
    rw [sectionEntries, found]
    exact .ok .null
  | some definitions =>
    rw [found, Option.getD_some] at plainSection
    rw [Option.getD_some]
    cases plainSection with
    | null =>
      rw [sectionEntries, found]
      exact .ok .null
    | @mapping entries distinct each =>
      rw [Tree.namedEntries_named, sectionEntries_record found]
      exact .ok (.mapping _)
    | bool | number | text | sequence =>
      -- No section of this shape is read, and none is a layer.
      rw [sectionEntries, found]
      refine .of_parts (fun result done => ?_) fun layer => ?_
      · cases done
      · cases layer

/-- Under a name that a section does not have there is nothing that could not be read. -/
theorem forall_names_iff (plain : definitions.Plain) {Definition : Tree → Prop} (null : Definition .null) :
    (∀ id ∈ definitions.names, id ≠ rendererKey → Definition (definitions.under id)) ↔
      ∀ id, id ≠ rendererKey → Definition (definitions.under id) := by
  refine ⟨fun each id proper => ?_, fun each id _ => each id⟩
  by_cases present : id ∈ definitions.names
  · exact each id present proper
  · rw [plain.under_eq_null present]
    exact null

theorem readRules_yields (plain : definitions.Plain) (rules : List Rule) :
    (readRules rules definitions.namedEntries).Yields
      (∀ id, id ≠ rendererKey → LinkReadable (definitions.under id)) (putAll rules (rulesOf definitions)) := by
  rw [readRules_eq, plain.namedEntries_eq, List.mapM_map, ← forall_names_iff plain .null]
  exact (Except.Yields.mapM fun id _ => readRule_yields (plain.under id) id).map _

theorem readComposites_yields (plain : definitions.Plain) (name : String) :
    (readComposites name definitions.namedEntries).Yields
      (∀ id, id ≠ rendererKey → CompositeReadable (definitions.under id)) (compositesOf definitions) := by
  rw [readComposites_eq, plain.namedEntries_eq, List.filter_map, List.mapM_map, ← forall_names_iff plain .null]
  refine (Except.Yields.mapM fun id _ => readComposite_yields (plain.under id) name id).iff ?_
  simp

structure NetworkReadable (network : Tree) : Prop where
  layer : network.IsLayer
  ethernets : SectionReadable LinkReadable (network.under "ethernets")
  wifis : SectionReadable LinkReadable (network.under "wifis")
  bridges : SectionReadable CompositeReadable (network.under "bridges")
  bonds : SectionReadable CompositeReadable (network.under "bonds")

def networkOf (network : Tree) : Declared where
  rules := putAll (putAll [] (rulesOf (network.under "ethernets"))) (rulesOf (network.under "wifis"))
  composites := compositesOf (network.under "bridges") ++ compositesOf (network.under "bonds")

theorem map_id_rulesOf (definitions : Tree) : (rulesOf definitions).map (·.id) = definitions.names := by
  rw [rulesOf, List.map_map]
  exact (List.map_congr_left fun id _ => ruleOf_id id _).trans (List.map_id _)

theorem eq_ruleOf_of_mem {rule : Rule} (member : rule ∈ rulesOf definitions) :
    rule.id ∈ definitions.names ∧ rule = ruleOf rule.id (definitions.under rule.id) := by
  obtain ⟨id, known, rfl⟩ := List.mem_map.mp member
  rw [ruleOf_id]
  exact ⟨known, rfl⟩

section NetworkRules

variable {network : Tree} (plain : network.Plain)
include plain

theorem map_id_ethernets :
    (putAll [] (rulesOf (network.under "ethernets"))).map (·.id) = (network.under "ethernets").names := by
  rw [@map_id_putAll [] .nil, map_id_rulesOf, List.map_nil, List.nil_append,
    (plain.under "ethernets").names_nodup.eraseDups_eq]

/-- The ids of the links by cable come first, and then those of the links by radio that are not among them. -/
theorem map_id_rules_networkOf :
    (networkOf network).rules.map (·.id) = (network.under "ethernets").names ++
      (network.under "wifis").names.filter (· ∉ (network.under "ethernets").names) := by
  have ethernets := (plain.under "ethernets").names_nodup
  have wifis := (plain.under "wifis").names_nodup
  rw [networkOf, map_id_putAll (map_id_ethernets plain ▸ ethernets), map_id_ethernets plain, map_id_rulesOf,
    List.eraseDups_append, ethernets.eraseDups_eq, List.removeAll_eq_filter, (wifis.filter _).eraseDups_eq]
  simp

theorem nodup_rules_networkOf : ((networkOf network).rules.map (·.id)).Nodup := by
  rw [networkOf, map_id_putAll (map_id_ethernets plain ▸ (plain.under "ethernets").names_nodup)]
  exact List.eraseDups_nodup _

/-- A link by radio takes the place of one by cable that has its id. -/
theorem eq_ruleOf_of_mem_networkOf {rule : Rule} (member : rule ∈ (networkOf network).rules) :
    rule = ruleOf rule.id
      ((network.under (if rule.id ∈ (network.under "wifis").names then "wifis" else "ethernets")).under rule.id) := by
  have distinct := map_id_ethernets plain ▸ (plain.under "ethernets").names_nodup
  have wifis : ((rulesOf (network.under "wifis")).map (·.id)).Nodup :=
    map_id_rulesOf _ ▸ (plain.under "wifis").names_nodup
  have ethernets : ((rulesOf (network.under "ethernets")).map (·.id)).Nodup :=
    map_id_rulesOf _ ▸ (plain.under "ethernets").names_nodup
  rw [networkOf, mem_putAll distinct wifis, map_id_rulesOf, @mem_putAll [] _ _ .nil ethernets] at member
  rcases member with byRadio | ⟨byCable | ⟨none, -⟩, apart⟩
  · obtain ⟨known, same⟩ := eq_ruleOf_of_mem byRadio
    rwa [if_pos known]
  · rw [if_neg apart]
    exact (eq_ruleOf_of_mem byCable).2
  · cases none

end NetworkRules

theorem NetworkReadable.null : NetworkReadable .null where
  layer := .null
  ethernets := ⟨.null, fun _ _ => .null⟩
  wifis := ⟨.null, fun _ _ => .null⟩
  bridges := ⟨.null, fun _ _ => .null⟩
  bonds := ⟨.null, fun _ _ => .null⟩

theorem ofNetwork_yields (plain : (Tree.mapping network).Plain) :
    (ofNetwork network).Yields (NetworkReadable (.mapping network)) (networkOf (.mapping network)) := by
  have entries := sectionEntries_yields plain
  have rules := fun rules name => readRules_yields (plain.under name) rules
  have composites := fun name => readComposites_yields (plain.under name) name
  -- The sections are read one after the other, the entries of each before its definitions.
  have sequenced : (ofNetwork network).Yields _ (networkOf (.mapping network)) :=
    (entries "ethernets").bind <| (rules [] "ethernets").bind <| (entries "wifis").bind <| (rules _ "wifis").bind <|
    (entries "bridges").bind <| (composites "bridges").bind <| (entries "bonds").bind <| (composites "bonds").bind <|
    .ok trivial
  refine Except.Yields.iff sequenced ⟨?_, ?_⟩
  · rintro ⟨ethernets, links, wifis, further, bridges, joined, bonds, bound, -⟩
    exact ⟨.mapping network, ⟨ethernets, links⟩, ⟨wifis, further⟩, ⟨bridges, joined⟩, ⟨bonds, bound⟩⟩
  · rintro ⟨-, ⟨ethernets, links⟩, ⟨wifis, further⟩, ⟨bridges, joined⟩, ⟨bonds, bound⟩⟩
    exact ⟨ethernets, links, wifis, further, bridges, joined, bonds, bound, trivial⟩

/-- A tree that is accepted as a configuration. -/
structure Readable (tree : Tree) : Prop where
  layer : tree.IsLayer
  network : NetworkReadable (tree.under "network")

theorem ofTree_yields (plain : tree.Plain) :
    (ofTree tree).Yields (Readable tree) (networkOf (tree.under "network")) := by
  cases tree with
  | null => exact .ok ⟨.null, .null⟩
  | mapping entries =>
    have plainNetwork := plain.under "network"
    have readable : NetworkReadable ((Tree.mapping entries).under "network") ↔ Readable (.mapping entries) :=
      ⟨fun network => ⟨.mapping entries, network⟩, Readable.network⟩
    rw [← readable, ofTree]
    rw [Tree.under] at plainNetwork ⊢
    generalize Tree.valueOf? "network" entries = found at plainNetwork ⊢
    cases found with
    | none => exact .ok .null
    | some network =>
      rw [Option.getD_some] at plainNetwork ⊢
      cases network with
      | null => exact .ok .null
      | mapping network => exact ofNetwork_yields plainNetwork
      | bool | number | text | sequence | tagged =>
        refine .of_parts (fun result done => ?_) fun readable => ?_
        · cases done
        · cases readable.layer
  | bool | number | text | sequence | tagged =>
    refine .of_parts (fun result done => ?_) fun readable => ?_
    · cases done
    · cases readable.layer

end Sections

end Relink.Declared
