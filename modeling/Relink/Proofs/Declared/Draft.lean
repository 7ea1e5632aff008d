import Relink.Declared.Draft
import Relink.Proofs.Declared.Interpretation
import Relink.Proofs.Yaml.Layout.Given
import Relink.Proofs.Yaml.Layout.Tree

/-! The document of a draft declares what the draft says: a rule for each of its links, with what the link is recognised by
and the name that it shall have, and a composite for each bridge and each bond with its members. -/

namespace Relink.Draft

open Yaml (Layout Tree)
open Yaml.Layout (given block? AllLegible IsKey Legible)

section Said

def Link.rule (link : Link) : Rule where
  id := link.id
  target := link.target
  criteria :=
    if link.driver.isSome || link.address.isSome || link.emptyCriteria then some ⟨link.driver, link.address⟩ else none

/-- The rules that a draft stands for: that of the renderer if it has one, then those of the links by cable in order, each
replaced by the link by radio of the same id if there is one, and then those of the other links by radio in order. -/
def rules (draft : Draft) : List Rule :=
  (draft.ethernetsRenderer.map fun _ => ⟨rendererKey, none, none⟩).toList ++
    draft.ethernets.map (fun link => ((draft.wifis.find? (·.id = link.id)).getD link).rule) ++
    (draft.wifis.filter (·.id ∉ draft.ethernets.map (·.id))).map Link.rule

/-- A word of letters, digits and underscores that begins with a letter, is not too long and stands for no value. -/
structure IsWord (word : String) : Prop where
  letter : word.toList.head?.any Char.isAlpha = true
  others : word.toList.all (fun c => c.isAlphanum || c == '_') = true
  short : word.length ≤ 1000
  proper : word ∉ Yaml.valueWords

/-- A link that is named by words, if not by the renderer's key, and recognised by a word and by an address of hexadecimal
digits and colons, as far as it is. -/
structure Link.Proper (link : Link) : Prop where
  id : IsWord link.id
  apart : link.id ≠ rendererKey
  driver : ∀ driver ∈ link.driver, IsWord driver
  address : ∀ address ∈ link.address, address.toList.all (· ∈ ":0123456789abcdefABCDEF".toList) = true
  target : ∀ target ∈ link.target, IsWord target

/-- A bridge or a bond whose id and members are words. Its id is not the renderer's key, either. -/
structure CompositeProper (composite : String × List String) : Prop where
  id : IsWord composite.1
  apart : composite.1 ≠ rendererKey
  members : ∀ member ∈ composite.2, IsWord member

/-- A draft of words, in each section of which the ids are distinct. -/
structure Proper (draft : Draft) : Prop where
  renderer : ∀ renderer ∈ draft.renderer, IsWord renderer
  ethernetsRenderer : ∀ renderer ∈ draft.ethernetsRenderer, IsWord renderer
  links : ∀ link ∈ draft.ethernets ++ draft.wifis, link.Proper
  composites : ∀ composite ∈ draft.bridges ++ draft.bonds, CompositeProper composite
  ethernets : (draft.ethernets.map (·.id)).Nodup
  wifis : (draft.wifis.map (·.id)).Nodup
  bridges : (draft.bridges.map Prod.fst).Nodup
  bonds : (draft.bonds.map Prod.fst).Nodup

instance (word : String) : Decidable (IsWord word) :=
  decidable_of_iff (word.toList.head?.any Char.isAlpha = true ∧
      word.toList.all (fun c => c.isAlphanum || c == '_') = true ∧ word.length ≤ 1000 ∧ word ∉ Yaml.valueWords)
    ⟨fun ⟨letter, others, short, proper⟩ => ⟨letter, others, short, proper⟩,
      fun ⟨letter, others, short, proper⟩ => ⟨letter, others, short, proper⟩⟩

instance (link : Link) : Decidable link.Proper :=
  decidable_of_iff (IsWord link.id ∧ link.id ≠ rendererKey ∧ (∀ driver ∈ link.driver, IsWord driver) ∧
      (∀ address ∈ link.address, address.toList.all (· ∈ ":0123456789abcdefABCDEF".toList) = true) ∧
      ∀ target ∈ link.target, IsWord target)
    ⟨fun ⟨id, apart, driver, address, target⟩ => ⟨id, apart, driver, address, target⟩,
      fun ⟨id, apart, driver, address, target⟩ => ⟨id, apart, driver, address, target⟩⟩

instance (composite : String × List String) : Decidable (CompositeProper composite) :=
  decidable_of_iff (IsWord composite.1 ∧ composite.1 ≠ rendererKey ∧ ∀ member ∈ composite.2, IsWord member)
    ⟨fun ⟨id, apart, members⟩ => ⟨id, apart, members⟩, fun ⟨id, apart, members⟩ => ⟨id, apart, members⟩⟩

end Said

section Written

def Link.criteriaLayout (link : Link) : Option Layout :=
  (block? (given [("driver", link.driver.map .bare), ("macaddress", link.address.map .quoted)])).or
    (if link.emptyCriteria then some .empty else none)

/-- The layout of a link's definition; one that says nothing is an empty mapping. -/
def Link.layout (link : Link) : Layout :=
  (block? (given [("match", link.criteriaLayout), ("set-name", link.target.map .bare)])).getD .empty

/-- The entries of a section of links, which may begin with a renderer. -/
def linkEntries (renderer : Option String) (links : List Link) : List (String × Layout) :=
  given [(rendererKey, renderer.map .bare)] ++ links.map fun link => (link.id, link.layout)

def compositeEntries (composites : List (String × List String)) : List (String × Layout) :=
  composites.map fun composite => (composite.1, .block [("interfaces", .list composite.2)])

def networkEntries (draft : Draft) : List (String × Option Layout) :=
  [("version", some (.bare "2")), ("renderer", draft.renderer.map .bare),
    ("ethernets", block? (linkEntries draft.ethernetsRenderer draft.ethernets)),
    ("wifis", block? (linkEntries none draft.wifis)),
    ("bridges", block? (compositeEntries draft.bridges)), ("bonds", block? (compositeEntries draft.bonds))]

def layout (draft : Draft) : List (String × Layout) :=
  [("network", .block (given draft.networkEntries))]

theorem entryLines_link (link : Link) : Layout.entryLines 4 link.id link.layout = link.lines := by
  have quote (text : String) :
      "        macaddress: " ++ ("\"" ++ text ++ "\"") = "        macaddress: \"" ++ text ++ "\"" := by
    rw [← String.append_assoc, ← String.append_assoc]
    rfl
  have nothing (id : String) : "    " ++ id ++ ": " ++ "\x7b\x7d" = "    " ++ id ++ ": \x7b\x7d" := by
    rw [String.append_assoc]
    rfl
  -- What is written depends on which parts of the link are given.
  rcases link with ⟨id, _ | driver, _ | address, _ | target, _ | _⟩ <;>
    simp [Link.layout, Link.criteriaLayout, block?, given, Link.lines, Link.criteriaLines, Link.targetLines, Layout.lines,
      Layout.entryLines, Layout.inline, Layout.indentation, quote, nothing]

theorem entryLines_ne_nil (column : Nat) (key : String) (value : Layout) : Layout.entryLines column key value ≠ [] := by
  cases value <;> simp [Layout.entryLines]

/-- A section is written as its name and its entries, if there are any. -/
theorem lines_section (name : String) (entries : List (String × Layout)) :
    (block? entries).elim [] (Layout.entryLines 2 name) =
      match Layout.lines 4 entries with
      | [] => []
      | body => ("  " ++ name ++ ":") :: body := by
  cases entries with
  | nil => rfl
  | cons entry rest =>
    obtain ⟨line, more, filled⟩ := List.exists_cons_of_ne_nil (entryLines_ne_nil 4 entry.1 entry.2)
    simp [block?, Layout.entryLines, Layout.lines, filled, Layout.indentation]

theorem lines_linkEntries (renderer : Option String) (links : List Link) :
    Layout.lines 4 (linkEntries renderer links) =
      (renderer.map fun renderer => "    renderer: " ++ renderer).toList ++ links.flatMap Link.lines := by
  have each : Layout.lines 4 (links.map fun link => (link.id, link.layout)) = links.flatMap Link.lines := by
    induction links with
    | nil => rfl
    | cons link rest ih => rw [List.map_cons, Layout.lines, entryLines_link, ih, List.flatMap_cons]
  rw [linkEntries, Layout.lines_append, each, Layout.lines_given]
  cases renderer <;> simp [Layout.entryLines, Layout.indentation, Layout.inline, rendererKey]

theorem lines_compositeEntries (composites : List (String × List String)) :
    Layout.lines 4 (compositeEntries composites) = composites.flatMap fun composite =>
      ["    " ++ composite.1 ++ ":", "      interfaces: [" ++ ", ".intercalate composite.2 ++ "]"] := by
  have bracket (text : String) :
      "      interfaces: " ++ ("[" ++ text ++ "]") = "      interfaces: [" ++ text ++ "]" := by
    rw [← String.append_assoc, ← String.append_assoc]
    rfl
  induction composites with
  | nil => rfl
  | cons composite rest ih =>
    rw [List.flatMap_cons, ← ih]
    simp [compositeEntries, Layout.lines, Layout.entryLines, Layout.indentation, Layout.inline, bracket]

theorem compositeSection_eq (name : String) (composites : List (String × List String)) :
    compositeSection name composites = (block? (compositeEntries composites)).elim [] (Layout.entryLines 2 name) := by
  rw [lines_section, lines_compositeEntries]
  cases composites <;> rfl

theorem linkSection_eq (name : String) (renderer : Option String) (links : List Link) :
    linkSection name renderer links = (block? (linkEntries renderer links)).elim [] (Layout.entryLines 2 name) := by
  rw [lines_section, lines_linkEntries]
  rfl

theorem lines_layout (draft : Draft) : Layout.lines 0 draft.layout = draft.lines := by
  rw [lines, linkSection_eq, linkSection_eq, compositeSection_eq, compositeSection_eq]
  cases renderer : draft.renderer <;>
    simp [layout, networkEntries, Layout.lines, Layout.entryLines, Layout.lines_given, Layout.indentation, Layout.inline,
      renderer]

theorem toText_layout (draft : Draft) : Layout.toText draft.layout = draft.toText := by
  rw [Layout.toText, lines_layout, toText]

end Written

section Read

variable {depth : Nat} {word : String} {link : Link} {links : List Link} {renderer : Option String}
  {composites : List (String × List String)} {draft : Draft}

theorem IsWord.isKey (isWord : IsWord word) : IsKey word := by
  refine Layout.isKey_of_isAlpha isWord.letter (fun c member => ?_) isWord.proper (Nat.le_trans isWord.short (by decide))
  have known := List.all_eq_true.mp isWord.others c member
  simp only [Bool.or_eq_true] at known
  simp only [Yaml.isNameChar, Bool.or_eq_true]
  exact known.imp_left .inl

def fieldNames : List String :=
  ["network", "version", "renderer", "ethernets", "wifis", "bridges", "bonds", "interfaces", "match", "driver",
    "macaddress", "set-name"]

theorem isKey_fieldName {name : String} (member : name ∈ fieldNames) : IsKey name := by
  have each : ∀ name ∈ fieldNames, name.toList.head?.any Char.isAlpha = true ∧
      name.toList.all Yaml.isNameChar = true ∧ name ∉ Yaml.valueWords ∧
        name.length ≤ Yaml.KeyCandidate.greatestLength := by decide
  obtain ⟨letter, names, proper, short⟩ := each name member
  exact Layout.isKey_of_isAlpha letter (List.all_eq_true.mp names) proper short

theorem isKey_of_subset {names : List String} (subset : names ⊆ fieldNames) : ∀ name ∈ names, IsKey name :=
  fun _ member => isKey_fieldName (subset member)

theorem legible_bare {given : Option String} (words : ∀ word ∈ given, IsWord word) :
    ∀ value ∈ given.map Layout.bare, Legible depth value := by
  intro value member
  obtain ⟨word, given, rfl⟩ := Option.map_eq_some_iff.mp member
  exact (words word given).isKey.legible

theorem Link.Proper.legible_criteria (proper : link.Proper) : ∀ value ∈ link.criteriaLayout, Legible (depth + 2) value := by
  have address : ∀ value ∈ link.address.map Layout.quoted, Legible (depth + 1) value := by
    intro value member
    obtain ⟨address, given, rfl⟩ := Option.map_eq_some_iff.mp member
    have held : ":0123456789abcdefABCDEF".toList.all Yaml.Scalar.isHeld = true := by decide
    refine .quoted fun c member => List.all_eq_true.mp held c ?_
    simpa using List.all_eq_true.mp (proper.address address given) c member
  have all : AllLegible (depth + 1) (given [("driver", link.driver.map .bare), ("macaddress", link.address.map .quoted)]) :=
    .given (show ["driver", "macaddress"].Nodup by decide)
      (isKey_of_subset (show ["driver", "macaddress"] ⊆ fieldNames by decide))
      (List.forall_mem_cons.mpr ⟨legible_bare proper.driver, List.forall_mem_singleton.mpr address⟩)
  intro value member
  rcases Option.or_eq_some_iff.mp member with criteria | ⟨-, nothing⟩
  · exact all.block? criteria
  · split at nothing
    · cases nothing
      exact .empty
    · cases nothing

theorem Link.Proper.legible (proper : link.Proper) : Legible (depth + 3) link.layout := by
  have all : AllLegible (depth + 2) (given [("match", link.criteriaLayout), ("set-name", link.target.map .bare)]) :=
    .given (show ["match", "set-name"].Nodup by decide)
      (isKey_of_subset (show ["match", "set-name"] ⊆ fieldNames by decide))
      (List.forall_mem_cons.mpr ⟨proper.legible_criteria, List.forall_mem_singleton.mpr (legible_bare proper.target)⟩)
  rw [Link.layout]
  cases found : block? (given [("match", link.criteriaLayout), ("set-name", link.target.map .bare)]) with
  | none => exact .empty
  | some layout => exact all.block? found

theorem allLegible_linkEntries (named : ∀ word ∈ renderer, IsWord word) (proper : ∀ link ∈ links, link.Proper)
    (distinct : (links.map (·.id)).Nodup) : AllLegible (depth + 3) (linkEntries renderer links) := by
  have first : AllLegible (depth + 3) (given [(rendererKey, renderer.map .bare)]) :=
    .given (List.nodup_singleton _) (isKey_of_subset (show [rendererKey] ⊆ fieldNames by decide))
      (List.forall_mem_singleton.mpr (legible_bare named))
  have ids : (links.map fun link => (link.id, link.layout)).map Prod.fst = links.map (·.id) := List.map_map
  have others : AllLegible (depth + 3) (links.map fun link => (link.id, link.layout)) := by
    refine ⟨ids ▸ distinct, ?_, ?_⟩ <;> rw [List.forall_mem_map]
    · exact fun link member => (proper link member).id.isKey
    · exact fun link member => (proper link member).legible
  refine first.append others fun name member => ?_
  obtain rfl : name = rendererKey := by simpa using (Layout.given_sublist _).subset member
  rw [ids]
  intro taken
  obtain ⟨link, member, same⟩ := List.mem_map.mp taken
  exact (proper link member).apart same

theorem allLegible_compositeEntries (proper : ∀ composite ∈ composites, CompositeProper composite)
    (distinct : (composites.map Prod.fst).Nodup) : AllLegible (depth + 3) (compositeEntries composites) := by
  have ids : (compositeEntries composites).map Prod.fst = composites.map Prod.fst := List.map_map
  refine ⟨ids ▸ distinct, ?_, ?_⟩ <;> rw [compositeEntries, List.forall_mem_map]
  · exact fun composite member => (proper composite member).id.isKey
  · intro composite member
    have members : Legible (depth + 2) (.list composite.2) :=
      .list fun word listed => ((proper composite member).members word listed).isKey.toIsName
    exact .block (List.cons_ne_nil _ _) (List.nodup_singleton _)
      (List.forall_mem_singleton.mpr (isKey_fieldName (show "interfaces" ∈ fieldNames by decide)))
      (List.forall_mem_singleton.mpr members)

theorem Proper.legible (proper : draft.Proper) : Legible (depth + 6) (.block draft.layout) := by
  have ethernets : AllLegible (depth + 3) (linkEntries draft.ethernetsRenderer draft.ethernets) :=
    allLegible_linkEntries proper.ethernetsRenderer (fun link member => proper.links link (List.mem_append_left _ member))
      proper.ethernets
  have wifis : AllLegible (depth + 3) (linkEntries none draft.wifis) :=
    allLegible_linkEntries nofun (fun link member => proper.links link (List.mem_append_right _ member)) proper.wifis
  have bridges : AllLegible (depth + 3) (compositeEntries draft.bridges) :=
    allLegible_compositeEntries (fun composite member => proper.composites composite (List.mem_append_left _ member))
      proper.bridges
  have bonds : AllLegible (depth + 3) (compositeEntries draft.bonds) :=
    allLegible_compositeEntries (fun composite member => proper.composites composite (List.mem_append_right _ member))
      proper.bonds
  have reads : Tree.ofPlain? "2" = some (.number (.integer 2)) := rfl
  have version : Legible (depth + 4) (.bare "2") := .bare ⟨⟨'2', [], rfl, rfl⟩, List.all_eq_true.mp rfl⟩ reads
  have network : AllLegible (depth + 4) (given draft.networkEntries) := by
    refine .given (show ["version", "renderer", "ethernets", "wifis", "bridges", "bonds"].Nodup by decide)
      (isKey_of_subset (show ["version", "renderer", "ethernets", "wifis", "bridges", "bonds"] ⊆ fieldNames by decide)) ?_
    simp only [networkEntries, List.forall_mem_cons]
    exact ⟨fun value only => Option.some.inj only ▸ version, legible_bare proper.renderer, fun value => ethernets.block?,
      fun value => wifis.block?, fun value => bridges.block?, fun value => bonds.block?, nofun⟩
  exact .block (List.cons_ne_nil _ _) (List.nodup_singleton _)
    (List.forall_mem_singleton.mpr (isKey_fieldName (show "network" ∈ fieldNames by decide)))
    (List.forall_mem_singleton.mpr (.block (List.cons_ne_nil _ _) network.distinct network.keys network.values))

end Read

section Meant

open Declared

variable {link : Link} {links : List Link} {renderer : Option String} {composites : List (String × List String)}
  {draft : Draft}

theorem Link.Proper.readRule_layout (proper : link.Proper) : readRule link.id link.layout.tree = .ok link.rule := by
  obtain ⟨-, apart, driver, -, target⟩ := proper
  have driver : ∀ word ∈ link.driver, (Layout.bare word).tree = .text word := fun word given =>
    Layout.tree_bare (driver word given).isKey.toIsName
  have target : ∀ word ∈ link.target, (Layout.bare word).tree = .text word := fun word given =>
    Layout.tree_bare (target word given).isKey.toIsName
  have settings : readSettings link.layout.tree = .ok ⟨link.rule.criteria, link.target⟩ := by
    -- What is read depends on which parts of the link are given.
    rcases link with ⟨id, _ | driver, _ | address, _ | target, _ | _⟩
    all_goals
      simp_all [Link.layout, Link.criteriaLayout, Link.rule, block?, given, Layout.tree, Layout.trees]
      rfl
  have speaks : link.layout.tree.isNull = false := by
    rw [Link.layout, block?]
    split <;> rfl
  rw [readRule, speaks, if_neg (by simpa using apart), settings]
  rfl

theorem sectionEntries_network {name : String} {entries : List (String × Layout)}
    (member : (name, block? entries) ∈ draft.networkEntries) :
    sectionEntries (Tree.named (Layout.trees (given draft.networkEntries))) name = .ok (Layout.trees entries) := by
  have distinct : (draft.networkEntries.map Prod.fst).Nodup :=
    show ["version", "renderer", "ethernets", "wifis", "bridges", "bonds"].Nodup by decide
  have found := Layout.valueOf?_given distinct member
  cases entries with
  | nil =>
    rw [sectionEntries, found]
    rfl
  | cons entry rest => exact sectionEntries_record found

theorem readRules_linkEntries (proper : ∀ link ∈ links, link.Proper) (before : List Rule) :
    readRules before (Layout.trees (linkEntries renderer links)) =
      .ok (putAll before ((renderer.map fun _ => ⟨rendererKey, none, none⟩).toList ++ links.map Link.rule)) := by
  have rules : (links.map fun link => (link.id, link.layout.tree)).mapM (fun entry => readRule entry.1 entry.2) =
      .ok (links.map Link.rule) := by
    rw [List.mapM_map]
    exact Except.mapM_eq_ok fun link member => (proper link member).readRule_layout
  have entries : Layout.trees (linkEntries renderer links) =
      (renderer.map fun renderer => (rendererKey, (Layout.bare renderer).tree)).toList ++
        links.map fun link => (link.id, link.layout.tree) := by
    cases renderer <;> simp [linkEntries, given, Layout.trees_eq_map]
  rw [readRules_eq, entries]
  cases renderer with
  | none =>
    rw [Option.map_none, Option.toList_none, List.nil_append, rules]
    rfl
  | some renderer =>
    rw [Option.map_some, Option.toList_some, List.singleton_append, List.mapM_cons, rules]
    rfl

theorem readMembers_layout (members : List String) :
    readMembers (Layout.block [("interfaces", .list members)]).tree = .ok members := by
  have texts : (members.map Tree.text).mapM Tree.readText = .ok members := by
    rw [List.mapM_map]
    exact (Except.mapM_eq_ok fun _ _ => rfl).trans (congrArg Except.ok (List.map_id members))
  have listed : (Tree.sequence (members.map Tree.text)).readTexts = .ok members := texts
  change Tree.readFields membersField [] [] [(.text "interfaces", .sequence (members.map Tree.text))] = .ok members
  simp [Tree.readFields, Tree.text?, Tree.untagged, membersField, listed]

theorem readComposites_compositeEntries (name : String) (proper : ∀ composite ∈ composites, CompositeProper composite) :
    readComposites name (Layout.trees (compositeEntries composites)) =
      .ok (composites.map fun composite => ⟨composite.1, NameSet.ofNames composite.2⟩) := by
  have entries : Layout.trees (compositeEntries composites) = composites.map fun composite =>
      (composite.1, (Layout.block [("interfaces", .list composite.2)]).tree) := by
    simp [compositeEntries, Layout.trees_eq_map]
  have apart : ∀ entry ∈ Layout.trees (compositeEntries composites), decide (entry.1 ≠ rendererKey) = true := by
    rw [entries, List.forall_mem_map]
    exact fun composite member => decide_eq_true (proper composite member).apart
  rw [readComposites_eq, List.filter_eq_self.mpr apart, entries, List.mapM_map]
  refine Except.mapM_eq_ok fun composite _ => ?_
  have speaks : (Layout.block [("interfaces", .list composite.2)]).tree.isNull = false := rfl
  dsimp only [Function.comp_apply]
  rw [readComposite, speaks, if_neg Bool.false_ne_true, readMembers_layout]

/-- The rules of the links by radio are put in over those of the links by cable, and neither over the renderer's. -/
theorem putAll_rules (proper : draft.Proper) :
    putAll (putAll [] ((draft.ethernetsRenderer.map fun _ => ⟨rendererKey, none, none⟩).toList ++
      draft.ethernets.map Link.rule)) (draft.wifis.map Link.rule) = draft.rules := by
  let sentinels : List Rule := (draft.ethernetsRenderer.map fun _ => ⟨rendererKey, none, none⟩).toList
  let cable := draft.ethernets.map Link.rule
  let radio := draft.wifis.map Link.rule
  have ids (links : List Link) : (links.map Link.rule).map (·.id) = links.map (·.id) := List.map_map
  have distinct : (cable.map (·.id)).Nodup := ids draft.ethernets ▸ proper.ethernets
  have others : (radio.map (·.id)).Nodup := ids draft.wifis ▸ proper.wifis
  have apart {links : List Link} (proper : ∀ link ∈ links, link.Proper) :
      ∀ rule ∈ links.map Link.rule, rule.id ∉ sentinels.map (·.id) := by
    rw [List.forall_mem_map]
    intro link member taken
    obtain ⟨sentinel, present, same⟩ := List.mem_map.mp taken
    obtain ⟨_, _, rfl⟩ := Option.map_eq_some_iff.mp (Option.mem_toList.mp present)
    exact (proper link member).apart same.symm
  obtain ⟨byCable, byRadio⟩ := List.forall_mem_append.mp proper.links
  have alone : putAll [] sentinels = sentinels := by
    dsimp only [sentinels]
    cases draft.ethernetsRenderer <;> rfl
  have first : putAll [] (sentinels ++ cable) = sentinels ++ cable :=
    calc putAll [] (sentinels ++ cable) = putAll (putAll [] sentinels) cable := List.foldl_append
      _ = putAll (sentinels ++ []) cable := by rw [alone, List.append_nil]
      _ = sentinels ++ putAll [] cable := putAll_append_left (apart byCable) []
      _ = sentinels ++ cable := by rw [putAll_nil distinct]
  have replaced : cable.map (fun rule => (radio.find? (·.id = rule.id)).getD rule) =
      draft.ethernets.map fun link => ((draft.wifis.find? (·.id = link.id)).getD link).rule := by
    rw [List.map_map]
    refine List.map_congr_left fun link _ => ?_
    dsimp only [Function.comp_apply]
    rw [List.find?_map]
    exact Option.getD_map Link.rule link _
  have added : radio.filter (·.id ∉ cable.map (·.id)) =
      (draft.wifis.filter (·.id ∉ draft.ethernets.map (·.id))).map Link.rule := by
    rw [ids, List.filter_map]
    rfl
  calc putAll (putAll [] (sentinels ++ cable)) radio = sentinels ++ putAll cable radio := by
        rw [first, putAll_append_left (apart byRadio)]
    _ = draft.rules := by rw [putAll_eq distinct others, replaced, added, ← List.append_assoc, rules]

/-- What a draft of words is read as. -/
def declared (draft : Draft) : Declared where
  rules := draft.rules
  composites := (draft.bridges ++ draft.bonds).map fun composite => ⟨composite.1, NameSet.ofNames composite.2⟩

theorem Proper.ofTree_layout (proper : draft.Proper) :
    ofTree (Tree.record (Layout.trees draft.layout)) = .ok draft.declared := by
  obtain ⟨ethernets, wifis⟩ := List.forall_mem_append.mp proper.links
  obtain ⟨bridges, bonds⟩ := List.forall_mem_append.mp proper.composites
  let network := Tree.named (Layout.trees (given draft.networkEntries))
  have cable : sectionEntries network "ethernets" =
      .ok (Layout.trees (linkEntries draft.ethernetsRenderer draft.ethernets)) :=
    sectionEntries_network (by simp [networkEntries])
  have radio : sectionEntries network "wifis" = .ok (Layout.trees (linkEntries none draft.wifis)) :=
    sectionEntries_network (by simp [networkEntries])
  have bridged : sectionEntries network "bridges" = .ok (Layout.trees (compositeEntries draft.bridges)) :=
    sectionEntries_network (by simp [networkEntries])
  have bonded : sectionEntries network "bonds" = .ok (Layout.trees (compositeEntries draft.bonds)) :=
    sectionEntries_network (by simp [networkEntries])
  change ofNetwork network = .ok draft.declared
  refine Except.bind_eq_ok_iff.mpr ⟨_, cable, Except.bind_eq_ok_iff.mpr ⟨_, readRules_linkEntries ethernets [], ?_⟩⟩
  refine Except.bind_eq_ok_iff.mpr ⟨_, radio, Except.bind_eq_ok_iff.mpr ⟨_, readRules_linkEntries wifis _, ?_⟩⟩
  refine Except.bind_eq_ok_iff.mpr ⟨_, bridged, Except.bind_eq_ok_iff.mpr
    ⟨_, readComposites_compositeEntries _ bridges, ?_⟩⟩
  refine Except.bind_eq_ok_iff.mpr ⟨_, bonded, Except.bind_eq_ok_iff.mpr ⟨_, readComposites_compositeEntries _ bonds, ?_⟩⟩
  simp only [declared, List.map_append, ← putAll_rules proper]
  rfl

/-- The document of a draft of words declares the draft's rules in their order, and its bridges and then its bonds, each
with its members. -/
theorem ofText_toText (draft : Draft) (proper : draft.Proper) :
    ∃ declared, Declared.ofText draft.toText = .ok declared ∧ declared.rules = draft.rules ∧
      List.Forall₂ (fun said composite => composite.id = said.1 ∧ ∀ name, name ∈ composite.members.names ↔ name ∈ said.2)
        (draft.bridges ++ draft.bonds) declared.composites := by
  have legible : Legible Yaml.Document.greatestDepth (.block draft.layout) := @Proper.legible 122 draft proper
  have parsed : Tree.parse? draft.toText = some (Tree.record (Layout.trees draft.layout)) := by
    rw [← toText_layout]
    exact Layout.parse?_toText legible
  refine ⟨draft.declared, ?_, rfl, ?_⟩
  · rw [Declared.ofText, parsed]
    exact proper.ofTree_layout
  · rw [declared, List.forall₂_map_right_iff, List.forall₂_same]
    exact fun composite _ => ⟨rfl, fun name => mem_names_ofNames⟩

/-- A draft that has a link by cable and one by radio of the same id, and links that say much, little or nothing. -/
def studio : Draft where
  renderer := some "networkd"
  ethernetsRenderer := some "NetworkManager"
  ethernets := [
    ⟨"eth0", some "e1000", some "aa:BB:0:1:2:3", some "lan0", false⟩,
    ⟨"eth1", none, none, some "lan1", true⟩,
    ⟨"eth2", none, none, none, false⟩]
  wifis := [.byAddress "eth1" "" "air1", ⟨"wlan0", some "iwlwifi", none, none, false⟩]
  bridges := [("br0", ["lan0", "air1", "lan0"]), ("br1", [])]
  bonds := [("br1", ["eth2"])]

theorem ofText_toText_studio : studio.Proper ∧
    ∃ declared, Declared.ofText studio.toText = .ok declared ∧
      declared.rules = [⟨rendererKey, none, none⟩, ⟨"eth0", some "lan0", some ⟨some "e1000", some "aa:BB:0:1:2:3"⟩⟩,
        ⟨"eth1", some "air1", some ⟨none, some ""⟩⟩, ⟨"eth2", none, none⟩,
        ⟨"wlan0", none, some ⟨some "iwlwifi", none⟩⟩] ∧
      List.Forall₂ (fun said composite => composite.id = said.1 ∧ ∀ name, name ∈ composite.members.names ↔ name ∈ said.2)
        [("br0", ["lan0", "air1", "lan0"]), ("br1", []), ("br1", ["eth2"])] declared.composites := by
  have proper : studio.Proper :=
    ⟨by decide, by decide, by decide, by decide, by decide, by decide, by decide, by decide⟩
  obtain ⟨declared, read, rules, composites⟩ := ofText_toText studio proper
  exact ⟨proper, declared, read, rules.trans (by decide), composites⟩

end Meant

end Relink.Draft
