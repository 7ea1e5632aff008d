import Mathlib.Data.List.Induction
import Relink.Proofs.Declared.Reading
import Relink.Proofs.Plan

/-! What a document's tree declares, whatever trees it is made of. Of the definitions under one id the last is the rule,
and it stands where the first one stood; what stands beside the sections of links and composites is not looked at. -/

namespace Relink.Declared

open Yaml (Tree Mismatch)

section Definitions

variable {tree : Tree}

/-- What a link is recognised by, as a tree says it. A plain null says nothing of it. -/
def criteriaSaid : Tree → Option Criteria
  | .null => none
  | tree => some ⟨(tree.said "driver").text?, (tree.said "macaddress").text?⟩

/-- The rule that a definition under an id makes. The renderer's key and an empty definition say nothing. -/
def ruleSaid (id : String) (settings : Tree) : Rule :=
  if id = rendererKey ∨ settings.isNull = true then ⟨id, none, none⟩
  else ⟨id, (settings.said "set-name").text?, criteriaSaid (settings.said "match")⟩

/-- The links that the definition of a composite lists. -/
def membersSaid (settings : Tree) : List String :=
  (settings.said "interfaces").untagged.texts

@[simp] theorem ruleSaid_id (id : String) (settings : Tree) : (ruleSaid id settings).id = id := by
  rw [ruleSaid]
  split <;> rfl

theorem criteria_of_readCriteria {criteria : Criteria} (done : readCriteria tree = .ok criteria) :
    criteria = ⟨(tree.said "driver").text?, (tree.said "macaddress").text?⟩ := by
  have driver := Tree.eq_text?_of_readOption (Tree.get_readRecord component_driver rfl done)
  have address := Tree.eq_text?_of_readOption (Tree.get_readRecord component_address rfl done)
  rw [← driver, ← address]

theorem eq_criteriaSaid_of_readOption {criteria : Option Criteria}
    (done : tree.readOption readCriteria = .ok criteria) : criteria = criteriaSaid tree := by
  by_cases empty : tree = .null
  · subst empty
    cases done
    rfl
  · rw [Tree.readOption_of_ne_null _ empty] at done
    obtain ⟨found, read, rfl⟩ := Except.map_eq_ok_iff.mp done
    rw [criteriaSaid, criteria_of_readCriteria read]
    exact empty

theorem readRule_eq_ruleSaid {id : String} {rule : Rule} (done : readRule id tree = .ok rule) :
    rule = ruleSaid id tree := by
  rw [readRule] at done
  rw [ruleSaid]
  split at done
  · rename_i silent
    cases done
    rw [if_pos (by simpa using silent)]
  · rename_i speaks
    rw [if_neg (by simpa using speaks)]
    cases read : readSettings tree with
    | error mismatch => simp [read] at done
    | ok settings =>
      have target := Tree.eq_text?_of_readOption (Tree.get_readRecord component_target rfl read)
      have criteria := eq_criteriaSaid_of_readOption (Tree.get_readRecord component_criteria rfl read)
      rw [read] at done
      cases done
      rw [← target, ← criteria]

/-- A composite as its definition has it. -/
structure SaidBy (entry : String × Tree) (composite : Composite) : Prop where
  id : composite.id = entry.1
  members : ∀ name, name ∈ composite.members.names ↔ name ∈ membersSaid entry.2

theorem mem_names_ofNames {names : List String} {name : String} :
    name ∈ (NameSet.ofNames names).names ↔ name ∈ names := by
  rw [NameSet.ofNames, Table.mem_names_ofList, List.map_map]
  exact iff_of_eq (congrArg (name ∈ ·) (List.map_id _))

theorem membersSaid_of_isNull (empty : tree.isNull = true) : membersSaid tree = [] := by
  have bare : tree.untagged = .null := by
    rw [Tree.isNull] at empty
    split at empty
    · assumption
    · cases empty
  rw [membersSaid, Tree.said, bare]
  rfl

theorem saidBy_of_readComposite {kind id : String} {composite : Composite}
    (done : readComposite kind id tree = .ok composite) : SaidBy (id, tree) composite := by
  rw [readComposite] at done
  split at done
  · rename_i empty
    cases done
    refine ⟨rfl, fun name => ?_⟩
    rw [mem_names_ofNames, membersSaid_of_isNull empty]
  · cases read : readMembers tree with
    | error mismatch => simp [read] at done
    | ok members =>
      have listed := Tree.eq_texts_of_readTexts (Tree.get_readRecord component_members rfl read)
      rw [read] at done
      cases done
      refine ⟨rfl, fun name => ?_⟩
      rw [mem_names_ofNames, membersSaid, ← listed]

end Definitions

section Sections

variable {network : List (Tree × Tree)} {new : List Rule} {other : Rule}

/-- Of the rules under one id the last that was put in stays. -/
theorem mem_putAll_nil_iff :
    other ∈ putAll [] new ↔ (new.filter (·.id = other.id)).getLast? = some other := by
  induction new using List.reverseRecOn with
  | nil => simp [putAll]
  | append_singleton new rule ih =>
    have last : putAll [] (new ++ [rule]) = putRule rule (putAll [] new) := List.foldl_append
    have distinct : ((putAll [] new).map (·.id)).Nodup := by
      rw [@map_id_putAll [] .nil]
      exact List.eraseDups_nodup _
    rw [last, mem_putRule distinct, ih, List.filter_append]
    by_cases same : rule.id = other.id
    · simp [same, eq_comm]
    · have apart : other ≠ rule := fun equal => same (congrArg Rule.id equal).symm
      simp [same, apart, Ne.symm same]

/-- The entries of a section are those under a text, tags aside, of what the network has under its name. -/
theorem sectionEntries_eq_ok {kind : String} {entries : List (String × Tree)}
    (done : sectionEntries network kind = .ok entries) :
    entries = ((Tree.mapping network).under kind).namedEntries := by
  rw [Tree.under]
  rw [sectionEntries] at done
  split at done
  · rename_i absent
    cases done
    rw [absent]
    rfl
  · rename_i empty
    cases done
    rw [empty]
    rfl
  · rename_i definitions found
    rw [found, Option.getD_some, Tree.namedEntries]
    refine Except.eq_filterMap_of_mapM_eq_ok (fun entry named read => ?_) done
    obtain ⟨key, value⟩ := entry
    cases spelled : key.text? with
    | none => simp [spelled] at read
    | some id => simpa [spelled] using read
  · cases done

theorem sectionEntries_congr {changed : List (Tree × Tree)} {kind : String}
    (same : (Tree.mapping network).under kind = (Tree.mapping changed).under kind) :
    sectionEntries network kind = sectionEntries changed kind := by
  have seen (network : List (Tree × Tree)) : sectionEntries network kind =
      sectionEntries [(.text kind, (Tree.mapping network).under kind)] kind := by
    rw [sectionEntries, sectionEntries, Tree.under]
    simp only [Tree.valueOf?, if_true]
    cases Tree.valueOf? kind network <;> rfl
  rw [seen network, seen changed, same]

/-- The definitions of a document's network in some sections, one section after the other. -/
def definitionsIn (document : Tree) (kinds : List String) : List (String × Tree) :=
  kinds.flatMap fun kind => ((document.under "network").under kind).namedEntries

/-- The definitions of physical links, those by cable before those by radio. -/
def linksIn (document : Tree) : List (String × Tree) :=
  definitionsIn document ["ethernets", "wifis"]

/-- The definitions of composites, bridges before bonds. The renderer's key names none. -/
def compositesIn (document : Tree) : List (String × Tree) :=
  (definitionsIn document ["bridges", "bonds"]).filter (·.1 ≠ rendererKey)

theorem readRules_eq_ok {rules read : List Rule} {entries : List (String × Tree)}
    (done : readRules rules entries = .ok read) :
    read = putAll rules (entries.map fun entry => ruleSaid entry.1 entry.2) := by
  rw [readRules_eq] at done
  obtain ⟨new, each, rfl⟩ := Except.map_eq_ok_iff.mp done
  rw [Except.eq_filterMap_of_mapM_eq_ok (fun _ _ done => congrArg some (readRule_eq_ruleSaid done).symm) each,
    List.filterMap_eq_map']

theorem readComposites_eq_ok {kind : String} {entries : List (String × Tree)} {composites : List Composite}
    (done : readComposites kind entries = .ok composites) :
    List.Forall₂ SaidBy (entries.filter (·.1 ≠ rendererKey)) composites := by
  rw [readComposites_eq] at done
  exact (Except.forall₂_of_mapM_eq_ok done).imp fun _ _ => saidBy_of_readComposite

/-- A configuration that is read from a network has its rules and composites from the entries of the sections. -/
theorem ofNetwork_eq_ok {declared : Declared} (done : ofNetwork network = .ok declared) {document : Tree}
    (networked : document.under "network" = .mapping network) :
    declared.rules = putAll [] ((linksIn document).map fun entry => ruleSaid entry.1 entry.2) ∧
      List.Forall₂ SaidBy (compositesIn document) declared.composites := by
  obtain ⟨ethernets, cables, done⟩ := Except.bind_eq_ok_iff.mp done
  obtain ⟨links, byCable, done⟩ := Except.bind_eq_ok_iff.mp done
  obtain ⟨wifis, radios, done⟩ := Except.bind_eq_ok_iff.mp done
  obtain ⟨rules, byRadio, done⟩ := Except.bind_eq_ok_iff.mp done
  obtain ⟨bridges, joined, done⟩ := Except.bind_eq_ok_iff.mp done
  obtain ⟨overBridges, joins, done⟩ := Except.bind_eq_ok_iff.mp done
  obtain ⟨bonds, bound, done⟩ := Except.bind_eq_ok_iff.mp done
  obtain ⟨overBonds, binds, done⟩ := Except.bind_eq_ok_iff.mp done
  cases done
  have definitions (first second : String) : definitionsIn document [first, second] =
      ((Tree.mapping network).under first).namedEntries ++ ((Tree.mapping network).under second).namedEntries := by
    simp [definitionsIn, networked]
  rw [linksIn, compositesIn, definitions, definitions, ← sectionEntries_eq_ok cables, ← sectionEntries_eq_ok radios,
    ← sectionEntries_eq_ok joined, ← sectionEntries_eq_ok bound, List.map_append, List.filter_append]
  constructor
  · rw [readRules_eq_ok byRadio, readRules_eq_ok byCable]
    exact List.foldl_append.symm
  · exact List.rel_append (readComposites_eq_ok joins) (readComposites_eq_ok binds)

theorem ofNetwork_congr {changed : List (Tree × Tree)}
    (same : ∀ kind ∈ ["ethernets", "wifis", "bridges", "bonds"],
      (Tree.mapping network).under kind = (Tree.mapping changed).under kind) :
    ofNetwork network = ofNetwork changed := by
  rw [ofNetwork, ofNetwork, sectionEntries_congr (same "ethernets" (by decide)),
    sectionEntries_congr (same "wifis" (by decide)), sectionEntries_congr (same "bridges" (by decide)),
    sectionEntries_congr (same "bonds" (by decide))]

end Sections

section Documents

variable {document : Tree} {declared : Declared}

theorem ofTree_mapping {entries network : List (Tree × Tree)}
    (networked : (Tree.mapping entries).under "network" = .mapping network) :
    ofTree (.mapping entries) = ofNetwork network := by
  rw [Tree.under] at networked
  rw [ofTree]
  cases found : Tree.valueOf? "network" entries with
  | none => simp [found] at networked
  | some value =>
    obtain rfl : value = .mapping network := by simpa [found] using networked
    rfl

/-- A document that is accepted either says nothing of the network or is read from what it says of it. -/
theorem ofTree_eq_ok (done : ofTree document = .ok declared) :
    (document.under "network" = .null ∧ declared = empty) ∨
      ∃ network, document.under "network" = .mapping network ∧ ofNetwork network = .ok declared := by
  cases document with
  | null =>
    cases done
    exact .inl ⟨rfl, rfl⟩
  | mapping entries =>
    rw [ofTree] at done
    rw [Tree.under]
    split at done
    · rename_i absent
      cases done
      exact .inl ⟨by rw [absent]; rfl, rfl⟩
    · rename_i silent
      cases done
      exact .inl ⟨by rw [silent]; rfl, rfl⟩
    · rename_i network found
      exact .inr ⟨network, by rw [found]; rfl, done⟩
    · cases done
  | _ => cases done

theorem rules_of_ofTree (done : ofTree document = .ok declared) :
    declared.rules = putAll [] ((linksIn document).map fun entry => ruleSaid entry.1 entry.2) := by
  rcases ofTree_eq_ok done with ⟨silent, rfl⟩ | ⟨network, networked, read⟩
  · simp [linksIn, definitionsIn, silent, putAll, empty]
  · exact (ofNetwork_eq_ok read networked).1

theorem composites_of_ofTree (done : ofTree document = .ok declared) :
    List.Forall₂ SaidBy (compositesIn document) declared.composites := by
  rcases ofTree_eq_ok done with ⟨silent, rfl⟩ | ⟨network, networked, read⟩
  · simp [compositesIn, definitionsIn, silent, empty]
  · exact (ofNetwork_eq_ok read networked).2

/-- The ids are those under which links are defined, each where it is met first. -/
theorem map_id_rules_of_ofTree (done : ofTree document = .ok declared) :
    declared.rules.map (·.id) = ((linksIn document).map Prod.fst).eraseDups := by
  rw [rules_of_ofTree done, @map_id_putAll [] .nil, List.map_map]
  exact congrArg List.eraseDups (List.map_congr_left fun entry _ => ruleSaid_id entry.1 entry.2)

/-- A rule is what the last definition under its id says, and nothing of those before. -/
theorem exists_last_of_mem_rules (done : ofTree document = .ok declared) {rule : Rule}
    (member : rule ∈ declared.rules) :
    ∃ settings, ((linksIn document).filter (·.1 = rule.id)).getLast? = some (rule.id, settings) ∧
      rule = ruleSaid rule.id settings := by
  rw [rules_of_ofTree done, mem_putAll_nil_iff, List.filter_map, List.getLast?_map] at member
  obtain ⟨⟨id, settings⟩, last, said⟩ := Option.map_eq_some_iff.mp member
  obtain rfl : id = rule.id := by rw [← said, ruleSaid_id]
  refine ⟨settings, ?_, said.symm⟩
  rw [← last]
  simp [Function.comp_def]

end Documents

/-- What a document declares, entry by entry. -/
structure Interprets (document : Tree) (declared : Declared) : Prop where
  distinct : (declared.rules.map (·.id)).Nodup
  ids : declared.rules.map (·.id) = ((linksIn document).map Prod.fst).eraseDups
  rules : ∀ rule ∈ declared.rules, ∃ settings,
    ((linksIn document).filter (·.1 = rule.id)).getLast? = some (rule.id, settings) ∧ rule = ruleSaid rule.id settings
  physical : ∀ name, declared.isPhysical name = true ↔ name ≠ rendererKey ∧ name ∈ (linksIn document).map Prod.fst
  composites : List.Forall₂ SaidBy (compositesIn document) declared.composites

/-- An accepted document declares what its entries say, and two documents with the same four sections in their networks
are read alike, accepted or not. -/
theorem ofTree_entry_by_entry :
    (∀ document declared, ofTree document = .ok declared → Interprets document declared) ∧
      ∀ entries others network changed : List (Tree × Tree),
        (Tree.mapping entries).under "network" = .mapping network →
        (Tree.mapping others).under "network" = .mapping changed →
        (∀ kind ∈ ["ethernets", "wifis", "bridges", "bonds"],
          (Tree.mapping network).under kind = (Tree.mapping changed).under kind) →
        ofTree (.mapping entries) = ofTree (.mapping others) := by
  constructor
  · intro document declared done
    have ids := map_id_rules_of_ofTree done
    refine ⟨ids ▸ List.eraseDups_nodup _, ids, fun rule => exists_last_of_mem_rules done, fun name => ?_,
      composites_of_ofTree done⟩
    rw [isPhysical_iff, ← List.mem_eraseDups, ← ids, List.mem_map]
  · intro entries others network changed networked rewritten same
    rw [ofTree_mapping networked, ofTree_mapping rewritten, ofNetwork_congr same]

/-- A network with a link by cable that is defined again by radio, an empty link, the renderer, and a bridge. -/
def office : List (Tree × Tree) :=
  [(.text "ethernets", .mapping
    [(.text "lan", .mapping
        [(.text "match", .mapping [(.text "driver", .text "e1000")]), (.text "set-name", .text "eth0")]),
      (.text "spare", .null),
      (.text "renderer", .text "networkd")]),
    (.text "wifis", .mapping [(.text "lan", .mapping [(.text "set-name", .text "wlan0")])]),
    (.text "bridges", .mapping
      [(.text "renderer", .text "networkd"),
        (.text "br", .mapping [(.text "interfaces", .sequence [.text "lan", .text "spare", .text "lan"])])])]

theorem ofTree_entry_by_entry_office :
    ∃ declared, ofTree (.mapping [(.text "network", .mapping office)]) = .ok declared ∧
      declared.rules.map (·.id) = ["lan", "spare", "renderer"] ∧
      (∀ rule ∈ declared.rules, rule.id = "lan" → rule = ⟨"lan", some "wlan0", none⟩) ∧
      declared.isPhysical "lan" = true ∧ declared.isPhysical "renderer" = false ∧
      declared.composites.map (·.id) = ["br"] ∧
      ofTree (.mapping [(.text "version", .text "2"), (.text "network", .mapping ((.text "vlans", .null) :: office))]) =
        .ok declared := by
  obtain ⟨interprets, alike⟩ := ofTree_entry_by_entry
  obtain ⟨declared, done⟩ : ∃ declared, ofTree (.mapping [(.text "network", .mapping office)]) = .ok declared :=
    ⟨_, rfl⟩
  obtain ⟨-, ids, rules, physical, composites⟩ := interprets _ declared done
  refine ⟨declared, done, ids.trans rfl, fun rule member lan => ?_, (physical "lan").mpr (by decide), ?_, ?_, ?_⟩
  · obtain ⟨settings, last, said⟩ := rules rule member
    rw [lan] at last said
    cases last
    rw [said]
    rfl
  · rw [← Bool.not_eq_true, physical]
    exact fun named => named.1 rfl
  · obtain ⟨bridge, none, br, further, same⟩ := List.forall₂_cons_left_iff.mp composites
    obtain rfl := List.forall₂_nil_left_iff.mp further
    rw [same, List.map_singleton, br.id]
  · rw [← done]
    exact (alike _ _ office ((.text "vlans", .null) :: office) rfl rfl (by simp [Tree.under, Tree.valueOf?])).symm

end Relink.Declared
