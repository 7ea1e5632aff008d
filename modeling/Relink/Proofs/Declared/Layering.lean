import Relink.Proofs.Declared.Reading

/-! What documents laid over each other declare: they are accepted if each of them is, and every field of a definition
is the last that was given for it. -/

namespace Relink.Yaml.Tree

variable {Shape : Tree → Prop} {trees : List Tree} {name : String}

/-- A shape that plain trees keep when they are laid over each other. -/
def Lays (Shape : Tree → Prop) : Prop :=
  ∀ trees : List Tree, (∀ tree ∈ trees, tree.Plain) → (∀ tree ∈ trees, Shape tree) → Shape (null.mergeAll trees)

/-- What has the shape under a name of each tree has it there when the trees are laid over each other. -/
theorem Lays.under (lays : Lays Shape) (plain : ∀ tree ∈ trees, tree.Plain) (layers : ∀ tree ∈ trees, tree.IsLayer)
    (each : ∀ tree ∈ trees, Shape (tree.under name)) : Shape ((null.mergeAll trees).under name) := by
  rw [under_mergeAll plain layers]
  refine lays _ (List.forall_mem_map.mpr fun tree member => (plain tree member).under name) ?_
  exact List.forall_mem_map.mpr each

theorem lays_isLayer : Lays IsLayer := fun _ _ layers => IsLayer.mergeAll .null layers

/-- A shape that null has and no mapping is kept, since one of the trees stays. -/
theorem lays_of_leaves (empty : Shape null) (leaf : ∀ {tree}, Shape tree → ∀ entries, tree ≠ mapping entries) :
    Lays Shape := by
  intro trees plain each
  rw [mergeAll_eq_lastGiven plain fun tree member => leaf (each tree member)]
  cases last : lastGiven trees with
  | none => exact empty
  | some tree => exact each tree (mem_of_lastGiven last).1

theorem lays_isText : Lays IsText := lays_of_leaves .null IsText.ne_mapping

theorem lays_isTexts : Lays IsTexts := lays_of_leaves .null IsTexts.ne_mapping

end Relink.Yaml.Tree

namespace Relink.Declared

open Yaml (Tree)

theorem lays_criteriaReadable : Tree.Lays CriteriaReadable := fun _ plain each => by
  have layers := fun tree member => (each tree member).layer
  exact
    { layer := Tree.lays_isLayer _ plain layers
      driver := Tree.lays_isText.under plain layers fun tree member => (each tree member).driver
      address := Tree.lays_isText.under plain layers fun tree member => (each tree member).address }

theorem lays_linkReadable : Tree.Lays LinkReadable := fun _ plain each => by
  have layers := fun tree member => (each tree member).layer
  exact
    { layer := Tree.lays_isLayer _ plain layers
      criteria := lays_criteriaReadable.under plain layers fun tree member => (each tree member).criteria
      target := Tree.lays_isText.under plain layers fun tree member => (each tree member).target }

theorem lays_compositeReadable : Tree.Lays CompositeReadable := fun _ plain each => by
  have layers := fun tree member => (each tree member).layer
  exact
    { layer := Tree.lays_isLayer _ plain layers
      members := Tree.lays_isTexts.under plain layers fun tree member => (each tree member).members }

theorem lays_sectionReadable {Definition : Tree → Prop} (lays : Tree.Lays Definition) :
    Tree.Lays (SectionReadable Definition) := fun _ plain each => by
  have layers := fun tree member => (each tree member).layer
  exact
    { layer := Tree.lays_isLayer _ plain layers
      each := fun id proper => lays.under plain layers fun tree member => (each tree member).each id proper }

theorem lays_networkReadable : Tree.Lays NetworkReadable := fun trees plain each => by
  have layers := fun tree member => (each tree member).layer
  have links := fun kind => @Tree.Lays.under _ trees kind (lays_sectionReadable lays_linkReadable) plain layers
  have composites := fun kind => @Tree.Lays.under _ trees kind (lays_sectionReadable lays_compositeReadable) plain layers
  exact
    { layer := Tree.lays_isLayer _ plain layers
      ethernets := links _ fun tree member => (each tree member).ethernets
      wifis := links _ fun tree member => (each tree member).wifis
      bridges := composites _ fun tree member => (each tree member).bridges
      bonds := composites _ fun tree member => (each tree member).bonds }

theorem lays_readable : Tree.Lays Readable := fun _ plain each => by
  have layers := fun tree member => (each tree member).layer
  exact
    { layer := Tree.lays_isLayer _ plain layers
      network := lays_networkReadable.under plain layers fun tree member => (each tree member).network }

/-- The last value that documents give at the end of a path. -/
def given? (documents : List Tree) (path : List String) : Option Tree :=
  Tree.lastGiven (documents.map (·.along path))

/-- The ids in a section of documents, each where it first appears. -/
def idsIn (documents : List Tree) (kind : String) : List String :=
  (documents.flatMap fun document => (document.along ["network", kind]).names).eraseDups

/-- A rule that takes each of its fields from the last document that gives it under the rule's id in a section. -/
structure LinkLayered (documents : List Tree) (kind : String) (rule : Rule) : Prop where
  target : rule.target.map Tree.text = given? documents ["network", kind, rule.id, "set-name"]
  criteria : rule.criteria.isSome = true ↔
    ∃ document ∈ documents, ∃ entries, document.along ["network", kind, rule.id, "match"] = .mapping entries
  driver : ∀ criteria ∈ rule.criteria,
    criteria.driver.map Tree.text = given? documents ["network", kind, rule.id, "match", "driver"]
  address : ∀ criteria ∈ rule.criteria,
    criteria.address.map Tree.text = given? documents ["network", kind, rule.id, "match", "macaddress"]

/-- Composites in the order in which their ids appear in a section, each with the members of the last list that is given
under its id there. -/
structure CompositesLayered (documents : List Tree) (kind : String) (composites : List Composite) : Prop where
  ids : composites.map (·.id) = (idsIn documents kind).filter (· ≠ rendererKey)
  members : ∀ composite ∈ composites, ∀ name, name ∈ composite.members.names ↔
    ∃ items, given? documents ["network", kind, composite.id, "interfaces"] = some (.sequence items) ∧
      .text name ∈ items

/-- A section that can be read in each of some documents. -/
structure SectionIn (Definition : Tree → Prop) (documents : List Tree) (kind : String) : Prop where
  plain : ∀ document ∈ documents, document.Plain
  layer : ∀ document ∈ documents, document.IsLayer
  network : ∀ document ∈ documents, (document.under "network").IsLayer
  definitions : ∀ document ∈ documents, SectionReadable Definition (document.along ["network", kind])

section Documents

variable {Definition : Tree → Prop} {documents : List Tree} {kind id : String} {path : List String}

theorem plain_along (plain : ∀ document ∈ documents, document.Plain) (path : List String) :
    ∀ tree ∈ documents.map (·.along path), tree.Plain :=
  List.forall_mem_map.mpr fun document member => (plain document member).along path

/-- At the end of a path to what is no mapping anywhere, the last that is given stays. -/
theorem along_eq_given? (plain : ∀ document ∈ documents, document.Plain)
    (layers : ∀ document ∈ documents, document.LayersTo path)
    (leaves : ∀ document ∈ documents, ∀ entries, document.along path ≠ .mapping entries) :
    (Tree.null.mergeAll documents).along path = (given? documents path).getD .null := by
  rw [Tree.along_mergeAll plain layers, given?]
  exact Tree.mergeAll_eq_lastGiven (plain_along plain path) (List.forall_mem_map.mpr leaves) .null

theorem map_text_along (plain : ∀ document ∈ documents, document.Plain)
    (layers : ∀ document ∈ documents, document.LayersTo path)
    (texts : ∀ document ∈ documents, (document.along path).IsText) :
    ((Tree.null.mergeAll documents).along path).text?.map Tree.text = given? documents path := by
  have leaves : ∀ document ∈ documents, ∀ entries, document.along path ≠ .mapping entries :=
    fun document member => (texts document member).ne_mapping
  rw [along_eq_given? plain layers leaves]
  cases last : given? documents path with
  | none => rfl
  | some tree =>
    obtain ⟨member, proper⟩ := Tree.mem_of_lastGiven last
    obtain ⟨document, among, rfl⟩ := List.mem_map.mp member
    exact (texts document among).map_text proper

theorem isNull_along (plain : ∀ document ∈ documents, document.Plain)
    (layers : ∀ document ∈ documents, document.LayersTo path)
    (each : ∀ document ∈ documents, (document.along path).IsLayer) :
    ((Tree.null.mergeAll documents).along path).isNull = false ↔
      ∃ document ∈ documents, ∃ entries, document.along path = .mapping entries := by
  rw [Tree.along_mergeAll plain layers, Tree.isNull_mergeAll (List.forall_mem_map.mpr each),
    List.all_map, List.all_eq_false]
  refine exists_congr fun document => and_congr_right fun member => ?_
  have layer := each document member
  rw [Function.comp_apply]
  generalize document.along path = tree at layer ⊢
  cases layer <;> simp [Tree.isNull, Tree.untagged]

theorem mem_texts_along (plain : ∀ document ∈ documents, document.Plain)
    (layers : ∀ document ∈ documents, document.LayersTo path)
    (texts : ∀ document ∈ documents, (document.along path).IsTexts) (name : String) :
    name ∈ ((Tree.null.mergeAll documents).along path).texts ↔
      ∃ items, given? documents path = some (.sequence items) ∧ .text name ∈ items := by
  have leaves : ∀ document ∈ documents, ∀ entries, document.along path ≠ .mapping entries :=
    fun document member => (texts document member).ne_mapping
  rw [((Tree.Plain.null.mergeAll plain).along path).mem_texts_iff, along_eq_given? plain layers leaves]
  cases given? documents path <;> simp

namespace SectionIn

variable (here : SectionIn Definition documents kind)
include here

theorem layersTo {document : Tree} (member : document ∈ documents) : document.LayersTo ["network", kind] :=
  ⟨here.layer document member, here.network document member, trivial⟩

theorem names_along : ((Tree.null.mergeAll documents).along ["network", kind]).names = idsIn documents kind := by
  rw [Tree.along_mergeAll here.plain fun _ => here.layersTo, Tree.names_mergeAll (plain_along here.plain _), idsIn,
    List.flatMap_map]
  exact List.forall_mem_map.mpr fun document member => (here.definitions document member).layer

end SectionIn

theorem linkLayered_ruleOf (here : SectionIn LinkReadable documents kind) (proper : id ≠ rendererKey) :
    LinkLayered documents kind (ruleOf id ((Tree.null.mergeAll documents).along ["network", kind, id])) := by
  have link := fun document member => (here.definitions document member).each id proper
  have path (rest : List String) (layers : ∀ document ∈ documents, (document.along ["network", kind, id]).LayersTo rest) :
      ∀ document ∈ documents, document.LayersTo (["network", kind, id] ++ rest) := fun document member =>
    ⟨here.layer document member, here.network document member, (here.definitions document member).layer,
      layers document member⟩
  have toSettings := path ["set-name"] fun document member => ⟨(link document member).layer, trivial⟩
  have toCriteria := path ["match"] fun document member => ⟨(link document member).layer, trivial⟩
  have inCriteria := fun name => path ["match", name] fun document member =>
    ⟨(link document member).layer, (link document member).criteria.layer, trivial⟩
  rw [ruleOf, if_neg proper]
  constructor
  · exact map_text_along here.plain toSettings fun document member => (link document member).target
  · exact (isSome_matchedBy _).trans <|
      isNull_along here.plain toCriteria fun document member => (link document member).criteria.layer
  · intro criteria found
    rw [eq_criteriaOf found]
    exact map_text_along here.plain (inCriteria "driver") fun document member => (link document member).criteria.driver
  · intro criteria found
    rw [eq_criteriaOf found]
    exact map_text_along here.plain (inCriteria "macaddress") fun document member =>
      (link document member).criteria.address

theorem compositesLayered_compositesOf (here : SectionIn CompositeReadable documents kind) :
    CompositesLayered documents kind (compositesOf ((Tree.null.mergeAll documents).along ["network", kind])) := by
  constructor
  · rw [compositesOf, List.map_map, here.names_along]
    exact List.map_id _
  · intro composite member name
    obtain ⟨id, known, rfl⟩ := List.mem_map.mp member
    have proper : id ≠ rendererKey := by simpa using (List.mem_filter.mp known).2
    have definition := fun document member => (here.definitions document member).each id proper
    have layers : ∀ document ∈ documents, document.LayersTo ["network", kind, id, "interfaces"] :=
      fun document member => ⟨here.layer document member, here.network document member,
        (here.definitions document member).layer, (definition document member).layer, trivial⟩
    refine Iff.trans ?_ (mem_texts_along here.plain layers (fun document member => (definition document member).members) name)
    rw [compositeOf, NameSet.ofNames, Table.mem_names_ofList, List.map_map]
    exact iff_of_eq (congrArg (name ∈ ·) (List.map_id _))

end Documents

/-- Documents that are accepted one by one are accepted when they are laid over each other. A link by radio is declared
where one by cable with its id was, and each field of a definition is the last that is given for it. -/
theorem ofTree_mergeAll {documents : List Tree} (plain : ∀ document ∈ documents, document.Plain)
    (accepted : ∀ document ∈ documents, ∃ declared, ofTree document = .ok declared) :
    ∃ declared, ofTree (Tree.null.mergeAll documents) = .ok declared ∧
      declared.rules.map (·.id) =
        idsIn documents "ethernets" ++ (idsIn documents "wifis").filter (· ∉ idsIn documents "ethernets") ∧
      (declared.rules.map (·.id)).Nodup ∧
      (∀ rule ∈ declared.rules, rule.id ≠ rendererKey →
        LinkLayered documents (if rule.id ∈ idsIn documents "wifis" then "wifis" else "ethernets") rule) ∧
      ∃ bridges bonds, declared.composites = bridges ++ bonds ∧
        CompositesLayered documents "bridges" bridges ∧ CompositesLayered documents "bonds" bonds := by
  have readable : ∀ document ∈ documents, Readable document := by
    intro document member
    obtain ⟨declared, done⟩ := accepted document member
    exact ((ofTree_yields (plain document member) declared).mp done).1
  have sectionIn {Definition : Tree → Prop} (kind : String)
      (definitions : ∀ document ∈ documents, SectionReadable Definition (document.along ["network", kind])) :
      SectionIn Definition documents kind :=
    ⟨plain, fun document member => (readable document member).layer,
      fun document member => (readable document member).network.layer, definitions⟩
  have ethernets := sectionIn "ethernets" fun document member => (readable document member).network.ethernets
  have wifis := sectionIn "wifis" fun document member => (readable document member).network.wifis
  have bridges := sectionIn "bridges" fun document member => (readable document member).network.bridges
  have bonds := sectionIn "bonds" fun document member => (readable document member).network.bonds
  have plainMerged := Tree.Plain.null.mergeAll plain
  have plainNetwork := plainMerged.under "network"
  refine ⟨_, (ofTree_yields plainMerged).eq_ok (lays_readable documents plain readable), ?_,
    nodup_rules_networkOf plainNetwork, ?_, _, _, rfl, compositesLayered_compositesOf bridges,
    compositesLayered_compositesOf bonds⟩
  · rw [← ethernets.names_along, ← wifis.names_along]
    exact map_id_rules_networkOf plainNetwork
  · intro rule member proper
    have layered : LinkLayered documents (if rule.id ∈ idsIn documents "wifis" then "wifis" else "ethernets")
        (ruleOf rule.id ((Tree.null.mergeAll documents).along
          ["network", if rule.id ∈ idsIn documents "wifis" then "wifis" else "ethernets", rule.id])) := by
      split
      · exact linkLayered_ruleOf wifis proper
      · exact linkLayered_ruleOf ethernets proper
    rw [eq_ruleOf_of_mem_networkOf plainNetwork member, ruleOf_id]
    rw [← wifis.names_along] at layered ⊢
    exact layered

/-- A document that declares a link by cable and a bridge over it. -/
def wired : Tree :=
  .record [("network", .record
    [("ethernets", .record [("lan", .record
      [("match", .record [("driver", .text "e1000")]), ("set-name", .text "eth0")])]),
     ("bridges", .record [("br", .record [("interfaces", .sequence [.text "eth0"])])])])]

/-- A document that declares a link by radio under the same id, and the same bridge over it. -/
def wireless : Tree :=
  .record [("network", .record
    [("wifis", .record [("lan", .record [("set-name", .text "wlan0")])]),
     ("bridges", .record [("br", .record [("interfaces", .sequence [.text "wlan0"])])])])]

theorem plain_wired : wired.Plain := by
  have bridges : (Tree.record [("br", .record [("interfaces", .sequence [.text "eth0"])])]).Plain :=
    .single (.single (.sequence (List.forall_mem_singleton.mpr (.text "eth0"))))
  exact .single (.pair (by decide) (.single (.pair (by decide) (.single (.text "e1000")) (.text "eth0"))) bridges)

theorem plain_wireless : wireless.Plain := by
  have bridges : (Tree.record [("br", .record [("interfaces", .sequence [.text "wlan0"])])]).Plain :=
    .single (.single (.sequence (List.forall_mem_singleton.mpr (.text "wlan0"))))
  exact .single (.pair (by decide) (.single (.single (.text "wlan0"))) bridges)

/-- The link by radio has nothing of the one by cable, and the bridge has the member that was listed last. -/
theorem ofTree_mergeAll_wired_wireless :
    ∃ declared, ofTree (Tree.null.mergeAll [wired, wireless]) = .ok declared ∧
      declared.rules.map (·.id) = ["lan"] ∧
      (∀ rule ∈ declared.rules, rule.target = some "wlan0" ∧ rule.criteria = none) ∧
      ∃ bridge, declared.composites = [bridge] ∧ bridge.id = "br" ∧ ∀ name, name ∈ bridge.members.names ↔ name = "wlan0" := by
  obtain ⟨declared, done, ids, -, rules, bridges, bonds, composites, overBridges, overBonds⟩ :=
    @ofTree_mergeAll [wired, wireless]
      (List.forall_mem_cons.mpr ⟨plain_wired, List.forall_mem_singleton.mpr plain_wireless⟩)
      (List.forall_mem_cons.mpr ⟨⟨_, rfl⟩, List.forall_mem_singleton.mpr ⟨_, rfl⟩⟩)
  have lan : declared.rules.map (·.id) = ["lan"] := ids.trans rfl
  have noBond : bonds = [] := List.map_eq_nil_iff.mp (overBonds.ids.trans rfl)
  obtain ⟨bridge, rfl, br⟩ := List.map_eq_singleton_iff.mp (overBridges.ids.trans rfl)
  refine ⟨declared, done, lan, fun rule member => ?_, bridge, by rw [composites, noBond]; rfl, br, fun name => ?_⟩
  · have same : rule.id = "lan" := List.mem_singleton.mp (lan ▸ List.mem_map_of_mem member)
    have layered := rules rule member (by rw [same]; decide)
    have target := layered.target
    have criteria := layered.criteria
    rw [same, if_pos (by decide)] at target criteria
    have last : given? [wired, wireless] ["network", "wifis", "lan", "set-name"] = some (.text "wlan0") := rfl
    have unmatched : ∀ document ∈ [wired, wireless], document.along ["network", "wifis", "lan", "match"] = .null :=
      List.forall_mem_cons.mpr ⟨rfl, List.forall_mem_singleton.mpr rfl⟩
    constructor
    · simpa [last] using target
    · refine Option.eq_none_iff_forall_not_mem.mpr fun found given => ?_
      obtain ⟨document, among, entries, mapped⟩ := criteria.mp (Option.isSome_of_mem given)
      rw [unmatched document among] at mapped
      cases mapped
  · have members := overBridges.members bridge (List.mem_singleton.mpr rfl) name
    rw [br] at members
    have last : given? [wired, wireless] ["network", "bridges", "br", "interfaces"] = some (.sequence [.text "wlan0"]) := rfl
    simpa [last] using members

end Relink.Declared
