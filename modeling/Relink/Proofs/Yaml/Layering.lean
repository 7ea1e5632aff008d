import Mathlib.Data.List.Nodup
import Relink.Proofs.Yaml.MergeAll

/-! Trees laid over each other, seen name by name. Where all of them are mappings or null, what the result has under a
name is what they have there, laid over each other, and its names are theirs in the order in which they appear. -/

namespace List

variable {α : Type} [BEq α]

theorem removeAll_eq_filter (first second : List α) :
    first.removeAll second = first.filter fun element => !second.contains element := rfl

variable [LawfulBEq α]

theorem eraseDups_nodup (elements : List α) : elements.eraseDups.Nodup := by
  match elements with
  | [] => exact .nil
  | first :: rest =>
    rw [eraseDups_cons, nodup_cons]
    exact ⟨by simp, eraseDups_nodup (rest.filter fun element => !element == first)⟩
termination_by elements.length
decreasing_by exact Nat.lt_succ_of_le (length_filter_le _ _)

theorem Nodup.eraseDups_eq {elements : List α} (distinct : elements.Nodup) : elements.eraseDups = elements := by
  induction elements with
  | nil => rfl
  | cons first rest ih =>
    obtain ⟨fresh, others⟩ := nodup_cons.mp distinct
    have kept : rest.filter (fun element => !element == first) = rest := by
      refine filter_eq_self.mpr fun element member => ?_
      have differs : element ≠ first := by
        rintro rfl
        exact fresh member
      simpa using differs
    rw [eraseDups_cons, kept, ih others]

theorem Nodup.eraseDups_append_singleton {elements : List α} (distinct : elements.Nodup) (element : α) :
    (elements ++ [element]).eraseDups = if element ∈ elements then elements else elements ++ [element] := by
  rw [eraseDups_append, distinct.eraseDups_eq, removeAll_eq_filter]
  split
  · rename_i present
    simp [present]
  · rename_i absent
    rw [filter_eq_self.mpr (by simpa using absent)]
    rfl

/-- What has been met before is not met for the first time again. -/
theorem eraseDups_append_eraseDups (first second : List α) :
    (first.eraseDups ++ second).eraseDups = (first ++ second).eraseDups := by
  have same : second.removeAll first.eraseDups = second.removeAll first := by
    rw [removeAll_eq_filter, removeAll_eq_filter]
    refine filter_congr fun element _ => ?_
    simp
  rw [eraseDups_append, eraseDups_append, (eraseDups_nodup first).eraseDups_eq, same]

end List

namespace Relink.Yaml.Tree

def named (entries : List (String × Tree)) : List (Tree × Tree) :=
  entries.map fun entry => (text entry.1, entry.2)

abbrev record (entries : List (String × Tree)) : Tree :=
  mapping (named entries)

/-- A tree without tags whose mappings have texts for keys, each of them once. -/
inductive Plain : Tree → Prop where
  | null : Plain null
  | bool (value : Bool) : Plain (bool value)
  | number (value : Number) : Plain (number value)
  | text (value : String) : Plain (text value)
  | sequence {items : List Tree} (each : ∀ item ∈ items, Plain item) : Plain (sequence items)
  | mapping {entries : List (String × Tree)} (distinct : (entries.map Prod.fst).Nodup)
      (each : ∀ entry ∈ entries, Plain entry.2) : Plain (mapping (named entries))

def namedEntries : Tree → List (String × Tree)
  | mapping entries => entries.filterMap fun entry => entry.1.text?.map fun name => (name, entry.2)
  | _ => []

def names (tree : Tree) : List String :=
  tree.namedEntries.map Prod.fst

/-- What a tree has under a name. Null stands for nothing. -/
def under (tree : Tree) (name : String) : Tree :=
  match tree with
  | mapping entries => (valueOf? name entries).getD null
  | _ => null

/-- What a tree has at the end of a path of names. -/
def along (tree : Tree) : List String → Tree
  | [] => tree
  | name :: path => (tree.under name).along path

/-- A path all of whose steps are taken from trees that others are laid over entry by entry. -/
def LayersTo (tree : Tree) : List String → Prop
  | [] => True
  | name :: path => tree.IsLayer ∧ (tree.under name).LayersTo path

/-- The last of some trees that is not null. -/
def lastGiven (trees : List Tree) : Option Tree :=
  (trees.filter fun tree => !tree.isNull).getLast?

@[simp] theorem named_nil : named [] = [] := rfl

@[simp] theorem named_cons (entry : String × Tree) (rest : List (String × Tree)) :
    named (entry :: rest) = (text entry.1, entry.2) :: named rest := rfl

theorem same_text (key : Tree) (name : String) : same key (text name) = true ↔ key = text name := by
  cases key <;> simp [same]

theorem lookup_text (name : String) (entries : List (Tree × Tree)) :
    lookup (text name) entries = valueOf? name entries := by
  induction entries with
  | nil => rfl
  | cons entry rest ih =>
    obtain ⟨key, value⟩ := entry
    by_cases here : key = text name
    · subst here
      simp [lookup, valueOf?, (same_text _ _).mpr rfl]
    · have other : same key (text name) = false := Bool.eq_false_iff.mpr (mt (same_text key name).mp here)
      have further : valueOf? name ((key, value) :: rest) = valueOf? name rest := by
        cases key <;> simp_all [valueOf?]
      rw [further, ← ih]
      simp [lookup, other]

theorem valueOf?_named (name : String) (entries : List (String × Tree)) :
    valueOf? name (named entries) = entries.lookup name := by
  induction entries with
  | nil => rfl
  | cons entry rest ih =>
    obtain ⟨key, value⟩ := entry
    by_cases here : key = name
    · simp [valueOf?, here]
    · have other : (name == key) = false := beq_eq_false_iff_ne.mpr (Ne.symm here)
      simp [valueOf?, here, List.lookup_cons, other, ih]

section Lookup

variable {base : List (String × Tree)} {name : String} {value : Tree}

theorem lookup_eq_none_of_not_mem (absent : name ∉ base.map Prod.fst) : base.lookup name = none := by
  refine List.lookup_eq_none_iff.mpr fun entry member => ?_
  have differs : name ≠ entry.1 := fun same => absent (same ▸ List.mem_map_of_mem member)
  simpa using differs

theorem exists_lookup_of_mem (present : name ∈ base.map Prod.fst) : ∃ value, base.lookup name = some value := by
  obtain ⟨entry, member, rfl⟩ := List.mem_map.mp present
  exact Option.isSome_iff_exists.mp (List.lookup_isSome_iff.mpr ⟨entry, member, by simp⟩)

theorem mem_of_lookup (found : base.lookup name = some value) : (name, value) ∈ base := by
  obtain ⟨earlier, later, rfl, _⟩ := List.lookup_eq_some_iff.mp found
  simp

theorem lookup_of_mem (distinct : (base.map Prod.fst).Nodup) (member : (name, value) ∈ base) :
    base.lookup name = some value := by
  obtain ⟨earlier, later, rfl⟩ := List.append_of_mem member
  refine List.lookup_eq_some_iff.mpr ⟨earlier, later, rfl, fun entry before => ?_⟩
  have apart := (List.nodup_append.mp (List.map_append ▸ distinct)).2.2 entry.1 (List.mem_map_of_mem before) name
    (by simp)
  simpa using Ne.symm apart

end Lookup

theorem under_named (name : String) (entries : List (String × Tree)) :
    (mapping (named entries)).under name = (entries.lookup name).getD null := by
  rw [under, valueOf?_named]

@[simp] theorem namedEntries_named (entries : List (String × Tree)) :
    (mapping (named entries)).namedEntries = entries := by
  induction entries with
  | nil => rfl
  | cons entry rest ih => simpa [namedEntries, text?, untagged] using ih

@[simp] theorem namedEntries_null : null.namedEntries = [] := rfl

@[simp] theorem names_null : null.names = [] := rfl

@[simp] theorem under_null (name : String) : null.under name = null := rfl

theorem Plain.single {name : String} {value : Tree} (plain : value.Plain) : (record [(name, value)]).Plain :=
  .mapping (List.nodup_singleton name) (List.forall_mem_singleton.mpr plain)

theorem Plain.pair {name other : String} {value next : Tree} (apart : name ≠ other) (plain : value.Plain)
    (also : next.Plain) : (record [(name, value), (other, next)]).Plain :=
  .mapping (by simpa using apart) (List.forall_mem_cons.mpr ⟨plain, List.forall_mem_singleton.mpr also⟩)

theorem Plain.names_nodup {tree : Tree} (plain : tree.Plain) : tree.names.Nodup := by
  cases plain with
  | mapping distinct each => simpa [names] using distinct
  | _ => exact .nil

/-- The entries of a plain tree are told by their names. -/
theorem Plain.under_eq_of_mem {tree value : Tree} {name : String} (plain : tree.Plain)
    (member : (name, value) ∈ tree.namedEntries) : tree.under name = value := by
  cases plain with
  | @mapping entries distinct each =>
    rw [namedEntries_named] at member
    rw [under_named, lookup_of_mem distinct member]
    rfl
  | _ => simp [namedEntries] at member

theorem Plain.namedEntries_eq {tree : Tree} (plain : tree.Plain) :
    tree.namedEntries = tree.names.map fun name => (name, tree.under name) := by
  rw [names, List.map_map]
  refine ((List.map_congr_left fun entry member => ?_).trans (List.map_id _)).symm
  exact Prod.ext rfl (plain.under_eq_of_mem member)

theorem Plain.under_eq_null {tree : Tree} {name : String} (plain : tree.Plain) (absent : name ∉ tree.names) :
    tree.under name = Tree.null := by
  cases plain with
  | @mapping entries distinct each =>
    rw [names, namedEntries_named] at absent
    rw [under_named, lookup_eq_none_of_not_mem absent]
    rfl
  | _ => rfl

theorem Plain.under {tree : Tree} (plain : tree.Plain) (name : String) : (tree.under name).Plain := by
  cases plain with
  | @mapping entries distinct each =>
    rw [under_named]
    cases found : entries.lookup name with
    | none => exact .null
    | some value => exact each (name, value) (mem_of_lookup found)
  | _ => exact .null

theorem Plain.along {tree : Tree} (plain : tree.Plain) (path : List String) : (tree.along path).Plain := by
  induction path generalizing tree with
  | nil => exact plain
  | cons name rest ih => exact ih (plain.under name)

theorem under_eq_beneath (tree : Tree) (name : String) : tree.under name = tree.beneath (text name) := by
  cases tree with
  | mapping entries => rw [under, beneath, child?, lookup_text]
  | _ => rfl

theorem named_namedEntries {entries : List (Tree × Tree)} (texts : ∀ entry ∈ entries, ∃ name, entry.1 = text name) :
    named (mapping entries).namedEntries = entries := by
  induction entries with
  | nil => rfl
  | cons entry rest ih =>
    obtain ⟨key, value⟩ := entry
    obtain ⟨⟨name, rfl⟩, later⟩ := List.forall_mem_cons.mp texts
    simpa [namedEntries, text?, untagged] using ih later

theorem Plain.wellFormed {tree : Tree} (plain : tree.Plain) : tree.WellFormed := by
  induction plain with
  | null => exact .null
  | bool value => exact .bool value
  | number value => exact .number value
  | text value => exact .text value
  | sequence _ ih => exact .sequence ih
  | @mapping entries distinct _ ih =>
    refine .mapping ?_ (List.forall_mem_map.mpr fun entry _ => .text entry.1) (List.forall_mem_map.mpr ih)
    refine List.pairwise_map.mpr ((List.pairwise_map.mp distinct).imp fun differs => ?_)
    simpa [same] using differs

theorem Plain.keys_eq {tree : Tree} (plain : tree.Plain) : tree.keys = tree.names.map Tree.text := by
  cases plain with
  | mapping =>
    rw [names, namedEntries_named]
    simp [keys, named]
  | _ => rfl

theorem Plain.isNone_child? {tree : Tree} (plain : tree.Plain) (name : String) :
    (tree.child? (Tree.text name)).isNone = !tree.names.contains name := by
  cases plain with
  | @mapping entries =>
    rw [child?, lookup_text, valueOf?_named, names, namedEntries_named]
    by_cases present : name ∈ entries.map Prod.fst
    · obtain ⟨value, found⟩ := exists_lookup_of_mem present
      rw [found, List.contains_iff_mem.mpr present]
      rfl
    · rw [lookup_eq_none_of_not_mem present]
      simpa using present
  | _ => rfl

/-- A well-formed tree is plain if its keys are texts and what it has under each name is plain. -/
theorem Plain.of_layered {tree : Tree} (layered : tree.Layered)
    (texts : ∀ key ∈ tree.keys, ∃ name, key = Tree.text name) (each : ∀ name, (tree.under name).Plain) : tree.Plain := by
  obtain ⟨well, layer⟩ := layered
  cases layer with
  | null => exact .null
  | mapping entries =>
    have is := named_namedEntries fun entry member => texts entry.1 (List.mem_map_of_mem member)
    generalize (Tree.mapping entries).namedEntries = pairs at is
    subst is
    have distinct : (pairs.map Prod.fst).Nodup := by
      refine List.pairwise_map.mpr ((List.pairwise_map.mp well.distinct).imp fun apart => ?_)
      simpa [same] using apart
    refine .mapping distinct fun entry member => ?_
    have plain := each entry.1
    rwa [under_named, lookup_of_mem distinct member] at plain

section Merge

variable {base overlay : Tree} {trees : List Tree}

/-- Under a name, one tree laid over another has what the two have there, one laid over the other. -/
theorem under_merge (layered : base.Layered) (overLayered : overlay.Layered) (name : String) :
    (base.merge overlay).under name = (base.under name).merge (overlay.under name) := by
  simp only [under_eq_beneath]
  exact beneath_merge layered overLayered (.text name)

theorem Plain.merge (plain : base.Plain) (overPlain : overlay.Plain) : (base.merge overlay).Plain := by
  -- The induction is on what is laid over: what each of its entries meets in the base is another tree every time.
  induction overPlain generalizing base with
  | null => simpa [merge_null] using plain
  | bool value => simpa [Tree.merge] using Plain.bool value
  | number value => simpa [Tree.merge] using Plain.number value
  | text value => simpa [Tree.merge] using Plain.text value
  | sequence each => simpa [Tree.merge] using Plain.sequence each
  | @mapping entries distinct each ih =>
    have overPlain := Plain.mapping distinct each
    cases plain with
    | @mapping existing apart before =>
      have plain := Plain.mapping apart before
      have layered : (record existing).Layered := ⟨plain.wellFormed, .mapping _⟩
      have overLayered : (record entries).Layered := ⟨overPlain.wellFormed, .mapping _⟩
      refine .of_layered (layered.merge overLayered) (fun key member => ?_) fun name => ?_
      · rw [keys_merge layered overLayered, plain.keys_eq, overPlain.keys_eq] at member
        grind
      · rw [under_merge layered overLayered, under_named name entries]
        cases found : entries.lookup name with
        | none => simpa [merge_null] using plain.under name
        | some value => exact ih (name, value) (mem_of_lookup found) (plain.under name)
    | _ => simpa [Tree.merge] using overPlain

/-- The names of a tree laid over another come after those of the other that it does not repeat. -/
theorem names_merge (plain : base.Plain) (overPlain : overlay.Plain) (layer : base.IsLayer)
    (overLayer : overlay.IsLayer) : (base.merge overlay).names = (base.names ++ overlay.names).eraseDups := by
  have keys := keys_merge ⟨plain.wellFormed, layer⟩ ⟨overPlain.wellFormed, overLayer⟩
  rw [(plain.merge overPlain).keys_eq, plain.keys_eq, overPlain.keys_eq, List.filter_map, ← List.map_append] at keys
  have names := List.map_injective_iff.mpr (fun _ _ => Tree.text.inj) keys
  rw [names, List.eraseDups_append, plain.names_nodup.eraseDups_eq, List.removeAll_eq_filter,
    (overPlain.names_nodup.filter _).eraseDups_eq]
  refine congrArg _ (List.filter_congr fun name _ => ?_)
  exact plain.isNone_child? name

theorem Plain.mergeAll (plain : base.Plain) (each : ∀ tree ∈ trees, tree.Plain) : (base.mergeAll trees).Plain :=
  mergeAll_kept Plain.merge plain each

/-- The names of trees laid over each other are those of the trees, in the order in which they first appear. -/
theorem names_mergeAll (plain : ∀ tree ∈ trees, tree.Plain) (layers : ∀ tree ∈ trees, tree.IsLayer) :
    (null.mergeAll trees).names = (trees.flatMap names).eraseDups := by
  have kept : ∀ {base overlay : Tree}, base.Plain ∧ base.IsLayer → overlay.Plain ∧ overlay.IsLayer →
      (base.merge overlay).Plain ∧ (base.merge overlay).IsLayer :=
    fun here laid => ⟨here.1.merge laid.1, here.2.merge laid.2⟩
  rw [view_mergeAll @kept ⟨.null, .null⟩ (fun tree member => ⟨plain tree member, layers tree member⟩) names
    (fun first second => (first ++ second).eraseDups) fun here laid => names_merge here.1 laid.1 here.2 laid.2,
    List.flatMap_def, names_null]
  suffices general : ∀ (lists : List (List String)) (first : List String), first.Nodup →
      lists.foldl (fun first second => (first ++ second).eraseDups) first = (first ++ lists.flatten).eraseDups from
    general _ [] .nil
  intro lists
  induction lists with
  | nil =>
    intro first distinct
    simp [distinct.eraseDups_eq]
  | cons second rest ih =>
    intro first _
    rw [List.foldl_cons, ih _ (List.eraseDups_nodup _), List.eraseDups_append_eraseDups, List.flatten_cons,
      List.append_assoc]

theorem under_mergeAll (plain : ∀ tree ∈ trees, tree.Plain) (layers : ∀ tree ∈ trees, tree.IsLayer) (name : String) :
    (null.mergeAll trees).under name = null.mergeAll (trees.map (·.under name)) :=
  view_mergeAll Layered.merge .null (fun tree member => ⟨(plain tree member).wellFormed, layers tree member⟩)
    (·.under name) Tree.merge fun layered overLayered => under_merge layered overLayered name

theorem along_mergeAll {path : List String} (plain : ∀ tree ∈ trees, tree.Plain)
    (layers : ∀ tree ∈ trees, tree.LayersTo path) :
    (null.mergeAll trees).along path = null.mergeAll (trees.map (·.along path)) := by
  induction path generalizing trees with
  | nil => simp [along]
  | cons name rest ih =>
    rw [along, under_mergeAll plain fun tree member => (layers tree member).1, ih]
    · rw [List.map_map]
      rfl
    · exact List.forall_mem_map.mpr fun tree member => (plain tree member).under name
    · exact List.forall_mem_map.mpr fun tree member => (layers tree member).2

theorem isNull_merge (layer : base.IsLayer) (overLayer : overlay.IsLayer) :
    (base.merge overlay).isNull = (base.isNull && overlay.isNull) := by
  cases layer <;> cases overLayer <;> simp [merge, isNull, untagged]

theorem isNull_mergeAll (layers : ∀ tree ∈ trees, tree.IsLayer) :
    (null.mergeAll trees).isNull = trees.all isNull := by
  rw [view_mergeAll IsLayer.merge .null layers isNull (· && ·) isNull_merge]
  suffices general : ∀ start : Bool, (trees.map isNull).foldl (· && ·) start = (start && trees.all isNull) from
    general true
  clear layers
  induction trees with
  | nil => simp
  | cons tree rest ih => simp [ih, Bool.and_assoc]

theorem lastGiven_cons (tree : Tree) (rest : List Tree) :
    lastGiven (tree :: rest) = (lastGiven rest).or (if tree.isNull then none else some tree) := by
  rw [lastGiven, List.filter_cons]
  cases tree.isNull with
  | true => simp [lastGiven]
  | false => simp [lastGiven, List.getLast?_cons, Option.or_some]

theorem mem_of_lastGiven {tree : Tree} (last : lastGiven trees = some tree) : tree ∈ trees ∧ tree.isNull = false := by
  simpa using List.mem_of_getLast? last

/-- Of trees that are no mappings the last that is given stays. -/
theorem mergeAll_eq_lastGiven (plain : ∀ tree ∈ trees, tree.Plain)
    (leaves : ∀ tree ∈ trees, ∀ entries, tree ≠ mapping entries) (base : Tree) :
    base.mergeAll trees = (lastGiven trees).getD base := by
  induction trees generalizing base with
  | nil => rfl
  | cons tree rest ih =>
    have later := ih (fun later member => plain later (List.mem_cons_of_mem tree member))
      (fun later member => leaves later (List.mem_cons_of_mem tree member)) (base.merge tree)
    rw [mergeAll, List.foldl_cons, ← mergeAll, later, lastGiven_cons]
    have here : base.merge tree = (if tree.isNull then none else some tree).getD base := by
      cases plain tree List.mem_cons_self with
      | mapping => exact absurd rfl (leaves _ List.mem_cons_self _)
      | _ => simp [merge, isNull, untagged]
    rw [here]
    cases lastGiven rest <;> rfl

end Merge

end Relink.Yaml.Tree
