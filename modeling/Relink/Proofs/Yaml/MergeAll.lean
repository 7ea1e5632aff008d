import Relink.Proofs.Yaml.Merge

/-! Trees laid over a first one, and then all of them once more, which changes nothing. That is not so of each tree by
itself: on the way an earlier one puts back what a later one then replaces again. But a tree that is neither null nor a
mapping makes all before it forgotten, and what mappings have under a key depends on what they have there alone. -/

namespace Relink.Yaml.Tree

variable {base key : Tree} {trees : List Tree}

@[simp] theorem mergeAll_nil (base : Tree) : base.mergeAll [] = base := rfl

@[simp] theorem mergeAll_cons (base tree : Tree) (rest : List Tree) :
    base.mergeAll (tree :: rest) = (base.merge tree).mergeAll rest := rfl

theorem mergeAll_append (base : Tree) (first second : List Tree) :
    base.mergeAll (first ++ second) = (base.mergeAll first).mergeAll second :=
  List.foldl_append

theorem mergeAll_of_null (nothing : ∀ tree ∈ trees, tree = null) : base.mergeAll trees = base := by
  induction trees with
  | nil => rfl
  | cons tree rest ih =>
    obtain ⟨rfl, later⟩ := List.forall_mem_cons.mp nothing
    rw [mergeAll_cons, merge_null]
    exact ih later

section Kept

variable {Good : Tree → Prop}
  (kept : ∀ {base overlay : Tree}, Good base → Good overlay → Good (base.merge overlay))
  (good : Good base) (each : ∀ tree ∈ trees, Good tree)
include kept good each

/-- What one tree laid over another keeps many keep. -/
theorem mergeAll_kept : Good (base.mergeAll trees) := by
  induction trees generalizing base with
  | nil => exact good
  | cons tree rest ih =>
    obtain ⟨here, later⟩ := List.forall_mem_cons.mp each
    exact ih (kept good here) later

/-- What can be told of one tree laid over another from the two can be told of many. -/
theorem view_mergeAll {β : Type} (view : Tree → β) (combine : β → β → β)
    (view_merge : ∀ {base overlay : Tree}, Good base → Good overlay →
      view (base.merge overlay) = combine (view base) (view overlay)) :
    view (base.mergeAll trees) = (trees.map view).foldl combine (view base) := by
  induction trees generalizing base with
  | nil => rfl
  | cons tree rest ih =>
    obtain ⟨here, later⟩ := List.forall_mem_cons.mp each
    rw [mergeAll_cons, ih (kept good here) later, view_merge good here]
    rfl

end Kept

theorem IsLayer.mergeAll (layer : base.IsLayer) (each : ∀ tree ∈ trees, tree.IsLayer) :
    (base.mergeAll trees).IsLayer :=
  mergeAll_kept IsLayer.merge layer each

theorem WellFormed.of_mem_keys {tree : Tree} (well : tree.WellFormed) : ∀ key ∈ tree.keys, key.WellFormed := by
  cases well with
  | mapping _ keys _ => exact List.forall_mem_map.mpr keys
  | _ => simp [keys]

section Replaced

/-- What is neither null nor a mapping makes what was there before forgotten. -/
theorem merge_of_not_isLayer {tree : Tree} (replaces : ¬tree.IsLayer) (base : Tree) : base.merge tree = tree := by
  refine merge_eq_overlay ?_ ?_
  · rintro rfl
    exact replaces .null
  · rintro ⟨-, entries, rfl⟩
    exact replaces (.mapping entries)

theorem mergeAll_congr_of_not_isLayer {tree : Tree} (member : tree ∈ trees) (replaces : ¬tree.IsLayer)
    (base other : Tree) : base.mergeAll trees = other.mergeAll trees := by
  obtain ⟨before, after, rfl⟩ := List.append_of_mem member
  simp only [mergeAll_append, mergeAll_cons, merge_of_not_isLayer replaces]

/-- A first tree that is no mapping stays, or has no part in what comes of it. -/
theorem mergeAll_of_not_mapping (leaf : ∀ entries, base ≠ mapping entries) (layers : ∀ tree ∈ trees, tree.IsLayer) :
    base.mergeAll trees = base ∨ base.mergeAll trees = null.mergeAll trees := by
  induction trees with
  | nil => exact .inl rfl
  | cons tree rest ih =>
    obtain ⟨layer, later⟩ := List.forall_mem_cons.mp layers
    cases layer with
    | null => simpa [merge_null] using ih later
    | mapping entries =>
      have replaced : base.merge (mapping entries) = mapping entries :=
        merge_eq_overlay nofun fun ⟨⟨entries, is⟩, _⟩ => leaf entries is
      rw [mergeAll_cons, mergeAll_cons, replaced, null_merge]
      exact .inr rfl

theorem exists_mergeAll_mapping (layers : ∀ tree ∈ trees, tree.IsLayer) (entries : List (Tree × Tree)) :
    ∃ merged, (mapping entries).mergeAll trees = mapping merged := by
  induction trees generalizing entries with
  | nil => exact ⟨entries, rfl⟩
  | cons tree rest ih =>
    obtain ⟨layer, later⟩ := List.forall_mem_cons.mp layers
    rw [mergeAll_cons]
    cases layer with
    | null => exact (merge_null _).symm ▸ ih later entries
    | mapping overlay => exact (merge_mapping entries overlay).symm ▸ ih later _

end Replaced

section Layers

variable (layered : base.Layered) (each : ∀ tree ∈ trees, tree.Layered)
include layered each

theorem Layered.mergeAll : (base.mergeAll trees).Layered :=
  mergeAll_kept Layered.merge layered each

theorem beneath_mergeAll (wellKey : key.WellFormed) :
    (base.mergeAll trees).beneath key = (base.beneath key).mergeAll (trees.map (·.beneath key)) :=
  view_mergeAll Layered.merge layered each (·.beneath key) Tree.merge fun layered overLayered =>
    beneath_merge layered overLayered wellKey

/-- A key of one of the layers or of the first tree is a key of what comes of them. -/
theorem isSome_child?_mergeAll (wellKey : key.WellFormed) :
    ((base.mergeAll trees).child? key).isSome = ((base.child? key).isSome || trees.any (·.child? key |>.isSome)) := by
  induction trees generalizing base with
  | nil => simp
  | cons tree rest ih =>
    obtain ⟨here, later⟩ := List.forall_mem_cons.mp each
    rw [mergeAll_cons, ih (layered.merge here) later, child?_merge layered here wellKey, isSome_overlaid,
      List.any_cons, Bool.or_assoc]

/-- Layers without a new key leave the keys as they are. -/
theorem keys_mergeAll_of_present (present : ∀ tree ∈ trees, ∀ key ∈ tree.keys, (base.child? key).isSome) :
    (base.mergeAll trees).keys = base.keys := by
  induction trees generalizing base with
  | nil => rfl
  | cons tree rest ih =>
    obtain ⟨here, each⟩ := List.forall_mem_cons.mp each
    obtain ⟨known, present⟩ := List.forall_mem_cons.mp present
    have nothing : tree.keys.filter (fun key => (base.child? key).isNone) = [] := by
      refine List.filter_eq_nil_iff.mpr fun key member => ?_
      simpa using Option.isSome_iff_ne_none.mp (known key member)
    rw [mergeAll_cons, ih (layered.merge here) each ?_, keys_merge layered here, nothing, List.append_nil]
    intro later member key among
    rw [child?_merge layered here ((each later member).well.of_mem_keys key among), isSome_overlaid,
      present later member key among, Bool.true_or]

end Layers

section Entries

variable {entries others : List (Tree × Tree)}

theorem WellFormed.isSome_child? {tree : Tree} (well : tree.WellFormed) :
    ∀ key ∈ tree.keys, (tree.child? key).isSome := by
  cases tree with
  | mapping entries =>
    refine List.forall_mem_map.mpr fun entry member => ?_
    rw [child?, well.lookup_of_mem member]
    rfl
  | _ => simp [keys]

theorem WellFormed.map_keys (well : (Tree.mapping entries).WellFormed) :
    ((Tree.mapping entries).keys.map fun key => (key, (Tree.mapping entries).beneath key)) = entries := by
  rw [keys, List.map_map]
  refine (List.map_congr_left fun entry member => ?_).trans (List.map_id entries)
  simp [Tree.beneath, child?, well.lookup_of_mem member]

/-- Mappings with the same keys in the same order and the same under each of them are the same. -/
theorem WellFormed.mapping_ext (well : (Tree.mapping entries).WellFormed)
    (wellOthers : (Tree.mapping others).WellFormed) (keys : (Tree.mapping entries).keys = (Tree.mapping others).keys)
    (each : ∀ key ∈ (Tree.mapping entries).keys,
      (Tree.mapping entries).beneath key = (Tree.mapping others).beneath key) :
    Tree.mapping entries = Tree.mapping others := by
  rw [← well.map_keys, ← wellOthers.map_keys, ← keys]
  exact congrArg Tree.mapping (List.map_congr_left fun key member => congrArg (key, ·) (each key member))

end Entries

/-- Layers that change nothing more where they are laid twice under each key change nothing more where they are laid
twice themselves. -/
theorem mergeAll_mergeAll_of_beneath (layered : base.Layered) (each : ∀ tree ∈ trees, tree.Layered)
    (further : ∀ key : Tree, key.WellFormed →
      ((base.beneath key).mergeAll (trees.map (·.beneath key))).mergeAll (trees.map (·.beneath key)) =
        (base.beneath key).mergeAll (trees.map (·.beneath key))) :
    (base.mergeAll trees).mergeAll trees = base.mergeAll trees := by
  have onceLayered := layered.mergeAll each
  have twiceLayered := onceLayered.mergeAll each
  have keys : ((base.mergeAll trees).mergeAll trees).keys = (base.mergeAll trees).keys := by
    refine keys_mergeAll_of_present onceLayered each fun tree member key among => ?_
    have well := (each tree member).well
    rw [isSome_child?_mergeAll layered each (well.of_mem_keys key among), Bool.or_eq_true, List.any_eq_true]
    exact .inr ⟨tree, member, well.isSome_child? key among⟩
  have beneaths : ∀ key ∈ (base.mergeAll trees).keys,
      ((base.mergeAll trees).mergeAll trees).beneath key = (base.mergeAll trees).beneath key := by
    intro key member
    have wellKey := onceLayered.well.of_mem_keys key member
    rw [beneath_mergeAll onceLayered each wellKey, beneath_mergeAll layered each wellKey]
    exact further key wellKey
  have layers : ∀ tree ∈ trees, tree.IsLayer := fun tree member => (each tree member).layer
  obtain ⟨wellOnce, layerOnce⟩ := onceLayered
  generalize once : base.mergeAll trees = merged at *
  cases layerOnce with
  | null =>
    -- Only null with nothing but nulls laid over it stays null.
    cases layered.layer with
    | null => exact once
    | mapping entries =>
      obtain ⟨merged, still⟩ := exists_mergeAll_mapping layers entries
      cases once.symm.trans still
  | mapping entries =>
    obtain ⟨merged, twice⟩ := exists_mergeAll_mapping layers entries
    rw [twice] at twiceLayered keys beneaths ⊢
    exact twiceLayered.well.mapping_ext wellOnce keys (keys ▸ beneaths)

theorem beneath_small {tree : Tree} {bound : Nat} (small : tree = null ∨ sizeOf tree < bound + 1) (key : Tree) :
    tree.beneath key = null ∨ sizeOf (tree.beneath key) < bound := by
  cases tree with
  | mapping entries =>
    rw [beneath, child?]
    cases found : lookup key entries with
    | none => exact .inl rfl
    | some value =>
      obtain ⟨⟨name, value⟩, member, -, rfl⟩ := exists_mem_of_lookup found
      have inside := List.sizeOf_lt_of_mem member
      refine .inr ?_
      simp at inside small ⊢
      omega
  | _ => exact .inl rfl

theorem mergeAll_mergeAll_of_bounded {bound : Nat} (well : base.WellFormed) (each : ∀ tree ∈ trees, tree.WellFormed)
    (small : ∀ tree ∈ trees, tree = null ∨ sizeOf tree < bound) :
    (base.mergeAll trees).mergeAll trees = base.mergeAll trees := by
  -- What the trees have under a key is smaller than they are, unless there is nothing.
  induction bound generalizing base trees with
  | zero =>
    have nothing : base.mergeAll trees = base := mergeAll_of_null fun tree member => by simpa using small tree member
    rw [nothing, nothing]
  | succ bound ih =>
    by_cases layers : ∀ tree ∈ trees, tree.IsLayer
    · have layered : ∀ tree ∈ trees, tree.Layered := fun tree member => ⟨each tree member, layers tree member⟩
      have laid : ∀ {base : Tree}, base.Layered → (base.mergeAll trees).mergeAll trees = base.mergeAll trees := by
        refine fun good => mergeAll_mergeAll_of_beneath good layered fun key _ => ih (good.well.beneath key) ?_ ?_
        · exact List.forall_mem_map.mpr fun tree member => (each tree member).beneath key
        · exact List.forall_mem_map.mpr fun tree member => beneath_small (small tree member) key
      by_cases mapped : ∃ entries, base = mapping entries
      · obtain ⟨entries, rfl⟩ := mapped
        exact laid ⟨well, .mapping entries⟩
      · rcases mergeAll_of_not_mapping (not_exists.mp mapped) layers with stays | forgotten
        · rw [stays, stays]
        · rw [forgotten]
          exact laid .null
    · push Not at layers
      obtain ⟨tree, member, replaces⟩ := layers
      exact mergeAll_congr_of_not_isLayer member replaces _ _

/-- Trees laid over a first one leave what they have made of it as it is when they are laid over it once more. -/
theorem mergeAll_mergeAll (well : base.WellFormed) (each : ∀ tree ∈ trees, tree.WellFormed) :
    (base.mergeAll trees).mergeAll trees = base.mergeAll trees :=
  mergeAll_mergeAll_of_bounded well each fun _ member => .inr (List.sizeOf_lt_of_mem member)

def rounds : List Tree :=
  [mapping [(text "links", mapping [(text "lan", null), (text "wan", bool true)]), (null, sequence [null])],
    mapping [(text "links", text "none")],
    mapping [(null, tagged "t" null), (text "links", mapping [(text "new", null), (text "wan", mapping [])])]]

/-- In each round the text in the middle puts away what stood under its key before the last tree gives it back. -/
theorem mergeAll_mergeAll_rounds :
    standing.WellFormed ∧ (∀ tree ∈ rounds, tree.WellFormed) ∧
    (standing.mergeAll rounds).mergeAll rounds = standing.mergeAll rounds ∧
    standing.mergeAll rounds =
      mapping [(text "links", mapping [(text "new", null), (text "wan", mapping [])]),
        (number (.float (.finite false 0 0)), text "old"), (null, tagged "t" null)] := by
  have each : ∀ tree ∈ rounds, tree.WellFormed := by simp [rounds, same]
  refine ⟨standing_wellFormed, each, mergeAll_mergeAll standing_wellFormed each, ?_⟩
  simp [merge, mergeEntries, lookup, replace, same, standing, rounds]

end Relink.Yaml.Tree
