import Relink.Proofs.Yaml.Same
import Relink.Yaml.Merge

/-! One tree laid over another, seen path by path. As long as both are mappings, what the result has under a key is
what the two have there, one laid over the other, and its keys are those of the first and then the further ones of the
second. At the first step where they are not, one of them is there as a whole. -/

namespace Relink.Yaml.Tree

/-- A tree that others are laid over entry by entry, or that says nothing. -/
inductive IsLayer : Tree → Prop where
  | null : IsLayer null
  | mapping (entries : List (Tree × Tree)) : IsLayer (mapping entries)

def keys : Tree → List Tree
  | mapping entries => entries.map Prod.fst
  | _ => []

def child? (tree key : Tree) : Option Tree :=
  match tree with
  | mapping entries => lookup key entries
  | _ => none

/-- What a tree has under a key, null where there is nothing. -/
def beneath (tree key : Tree) : Tree :=
  (tree.child? key).getD null

/-- What a tree has at the end of a path of keys. -/
def at? (tree : Tree) : List Tree → Option Tree
  | [] => some tree
  | key :: path => (tree.child? key).bind (·.at? path)

/-- A tree that may be missing, laid over another that may be. -/
def overlaid (base overlay : Option Tree) : Option Tree :=
  match overlay with
  | none => base
  | some overlay => some ((base.getD null).merge overlay)

/-- Entries with a value laid over the one of its key, or put last if there is none. -/
def enter (entries : List (Tree × Tree)) (key value : Tree) : List (Tree × Tree) :=
  match lookup key entries with
  | some existing => replace key (existing.merge value) entries
  | none => entries ++ [(key, value)]

theorem merge_null (base : Tree) : base.merge null = base := by
  simp [merge]

theorem null_merge (overlay : Tree) : null.merge overlay = overlay := by
  cases overlay <;> simp [merge]

theorem merge_mapping (entries overlay : List (Tree × Tree)) :
    (mapping entries).merge (mapping overlay) = mapping (mergeEntries entries overlay) := by
  simp [merge]

theorem IsLayer.merge {base overlay : Tree} (layer : base.IsLayer) (overLayer : overlay.IsLayer) :
    (base.merge overlay).IsLayer := by
  cases overLayer with
  | null => simpa [merge_null] using layer
  | mapping entries =>
    cases layer with
    | null => simpa [null_merge] using IsLayer.mapping entries
    | mapping existing => simpa [merge_mapping] using IsLayer.mapping (mergeEntries existing entries)

@[simp] theorem overlaid_none (base : Option Tree) : overlaid base none = base := rfl

@[simp] theorem none_overlaid (overlay : Option Tree) : overlaid none overlay = overlay := by
  cases overlay with
  | none => rfl
  | some overlay => exact congrArg some (null_merge overlay)

@[simp] theorem isSome_overlaid (base overlay : Option Tree) :
    (overlaid base overlay).isSome = (base.isSome || overlay.isSome) := by
  cases overlay <;> simp [overlaid]

theorem getD_overlaid (base overlay : Option Tree) :
    (overlaid base overlay).getD null = (base.getD null).merge (overlay.getD null) := by
  cases overlay <;> simp [overlaid, merge_null]

section Lookup

variable {key other value : Tree} {entries : List (Tree × Tree)}

theorem lookup_cons (key : Tree) (entry : Tree × Tree) (rest : List (Tree × Tree)) :
    lookup key (entry :: rest) = if same entry.1 key then some entry.2 else lookup key rest := by
  cases is : same entry.1 key <;> simp [lookup, is]

theorem lookup_eq_none_iff : lookup key entries = none ↔ ∀ entry ∈ entries, same entry.1 key = false := by
  simp [lookup]

theorem isNone_lookup : (lookup key entries).isNone = entries.all fun entry => !same entry.1 key := by
  rw [Bool.eq_iff_iff, Option.isNone_iff_eq_none, lookup_eq_none_iff]
  simp

theorem exists_mem_of_lookup (found : lookup key entries = some value) :
    ∃ entry ∈ entries, same entry.1 key = true ∧ entry.2 = value := by
  obtain ⟨entry, first, rfl⟩ := Option.map_eq_some_iff.mp found
  exact ⟨entry, List.mem_of_find?_eq_some first, by simpa using List.find?_some first, rfl⟩

theorem WellFormed.lookup_of_mem (well : (Tree.mapping entries).WellFormed) {entry : Tree × Tree}
    (member : entry ∈ entries) : lookup entry.1 entries = some entry.2 := by
  have present := (well.key_of_mem entry member).same_refl
  cases found : lookup entry.1 entries with
  | none => cases present.symm.trans (lookup_eq_none_iff.mp found entry member)
  | some value =>
    obtain ⟨first, among, is, rfl⟩ := exists_mem_of_lookup found
    rw [well.eq_of_same first among entry member is]

theorem lookup_congr (keys : ∀ entry ∈ entries, entry.1.WellFormed) (wellKey : key.WellFormed)
    (wellOther : other.WellFormed) (is : same key other = true) : lookup key entries = lookup other entries := by
  induction entries with
  | nil => rfl
  | cons entry rest ih =>
    obtain ⟨wellEntry, later⟩ := List.forall_mem_cons.mp keys
    have meets : same entry.1 key = same entry.1 other := by
      refine Bool.eq_iff_iff.mpr ⟨fun here => wellEntry.same_trans wellKey wellOther here is, fun here => ?_⟩
      exact wellEntry.same_euclid wellOther wellKey here is
    rw [lookup_cons, lookup_cons, meets, ih later]

theorem map_fst_replace (key value : Tree) (entries : List (Tree × Tree)) :
    (replace key value entries).map Prod.fst = entries.map Prod.fst := by
  induction entries with
  | nil => rfl
  | cons entry rest ih =>
    rw [replace]
    split <;> simp [ih]

theorem lookup_replace (keys : ∀ entry ∈ entries, entry.1.WellFormed) (wellKey : key.WellFormed)
    (wellOther : other.WellFormed) :
    lookup other (replace key value entries) =
      if same key other then (lookup key entries).map (fun _ => value) else lookup other entries := by
  induction entries with
  | nil => simp [replace, lookup]
  | cons entry rest ih =>
    obtain ⟨wellEntry, later⟩ := List.forall_mem_cons.mp keys
    have further := ih later
    rw [replace]
    by_cases here : same entry.1 key = true
    · have meets : same entry.1 other = same key other := by
        refine Bool.eq_iff_iff.mpr ⟨fun is => ?_, wellEntry.same_trans wellKey wellOther here⟩
        exact wellKey.same_trans wellEntry wellOther (wellEntry.same_comm wellKey ▸ here) is
      simp only [here, if_true, lookup_cons, meets]
      split <;> rfl
    · have apart : same key other = true → same entry.1 other = false := by
        refine fun is => Bool.eq_false_iff.mpr fun also => here ?_
        exact wellEntry.same_euclid wellOther wellKey also is
      simp only [here, Bool.false_eq_true, if_false, lookup_cons, further]
      split
      · rename_i also
        rw [if_neg fun is => ?_]
        cases also.symm.trans (apart is)
      · rfl

theorem mem_of_mem_replace {entry : Tree × Tree} (member : entry ∈ replace key value entries) :
    entry ∈ entries ∨ entry.2 = value := by
  induction entries with
  | nil => exact .inl member
  | cons head rest ih =>
    rw [replace] at member
    split at member
    · rcases List.mem_cons.mp member with rfl | later
      · exact .inr rfl
      · exact .inl (List.mem_cons_of_mem _ later)
    · rcases List.mem_cons.mp member with rfl | later
      · exact .inl List.mem_cons_self
      · exact (ih later).imp_left (List.mem_cons_of_mem _)

theorem WellFormed.replace_value (well : (Tree.mapping entries).WellFormed) (wellValue : value.WellFormed) (key : Tree) :
    (Tree.mapping (replace key value entries)).WellFormed := by
  have names := map_fst_replace key value entries
  have distinct := (List.pairwise_map (R := fun earlier later => same earlier later = false)).mpr well.distinct
  have keys := List.forall_mem_map.mpr well.key_of_mem
  rw [← names] at distinct keys
  refine .mapping (List.pairwise_map.mp distinct) (List.forall_mem_map.mp keys) fun entry member => ?_
  rcases mem_of_mem_replace member with kept | rfl
  · exact well.value_of_mem entry kept
  · exact wellValue

end Lookup

section Entries

variable {key other value : Tree} {entries overlay : List (Tree × Tree)}

theorem map_fst_enter (entries : List (Tree × Tree)) (key value : Tree) :
    (enter entries key value).map Prod.fst =
      entries.map Prod.fst ++ if (lookup key entries).isNone then [key] else [] := by
  rw [enter]
  cases lookup key entries <;> simp [map_fst_replace]

theorem lookup_enter (keys : ∀ entry ∈ entries, entry.1.WellFormed) (wellKey : key.WellFormed)
    (wellOther : other.WellFormed) :
    lookup other (enter entries key value) =
      overlaid (lookup other entries) (if same key other then some value else none) := by
  rw [enter]
  by_cases is : same key other = true
  · rw [if_pos is, ← lookup_congr keys wellKey wellOther is]
    cases found : lookup key entries with
    | some existing => simp [lookup_replace keys wellKey wellOther, is, found, overlaid]
    | none =>
      have absent : lookup other entries = none := lookup_congr keys wellKey wellOther is ▸ found
      have last : lookup other (entries ++ [(key, value)]) = some value := by
        rw [lookup, List.find?_append, Option.map_eq_none_iff.mp absent]
        simp [is]
      simpa using last
  · rw [if_neg is, overlaid_none]
    cases found : lookup key entries with
    | some existing => simp [lookup_replace keys wellKey wellOther, is]
    | none => simp [lookup, List.find?_append, is]

theorem WellFormed.enter (well : (Tree.mapping entries).WellFormed) (wellKey : key.WellFormed)
    (merged : ∀ base : Tree, base.WellFormed → (base.merge value).WellFormed) :
    (Tree.mapping (enter entries key value)).WellFormed := by
  rw [Tree.enter]
  cases found : lookup key entries with
  | some existing =>
    obtain ⟨entry, member, -, rfl⟩ := exists_mem_of_lookup found
    exact well.replace_value (merged entry.2 (well.value_of_mem entry member)) key
  | none =>
    have wellValue : value.WellFormed := null_merge value ▸ merged Tree.null .null
    exact well.append_entry wellKey wellValue (lookup_eq_none_iff.mp found)

theorem mergeEntries_cons (entries : List (Tree × Tree)) (entry : Tree × Tree) (rest : List (Tree × Tree)) :
    mergeEntries entries (entry :: rest) = mergeEntries (enter entries entry.1 entry.2) rest := by
  rw [mergeEntries, enter]
  split <;> simp_all

theorem WellFormed.mergeEntries (well : (Tree.mapping entries).WellFormed)
    (each : ∀ entry ∈ overlay, entry.1.WellFormed ∧ ∀ base : Tree, base.WellFormed → (base.merge entry.2).WellFormed) :
    (Tree.mapping (mergeEntries entries overlay)).WellFormed := by
  induction overlay generalizing entries with
  | nil => rwa [Tree.mergeEntries]
  | cons entry rest ih =>
    obtain ⟨⟨wellKey, merged⟩, later⟩ := List.forall_mem_cons.mp each
    rw [mergeEntries_cons]
    exact ih (well.enter wellKey merged) later

theorem WellFormed.merge {base overlay : Tree} (well : base.WellFormed) (overWell : overlay.WellFormed) :
    (base.merge overlay).WellFormed := by
  -- The induction is on what is laid over: what each of its entries meets in the base is another tree every time.
  induction overWell generalizing base with
  | null => rwa [merge_null]
  | bool | number | text => simp [Tree.merge]
  | sequence each _ => simpa [Tree.merge] using WellFormed.sequence each
  | tagged tag inner _ => simpa [Tree.merge] using WellFormed.tagged tag inner
  | @mapping overlay distinct keys values _ ih =>
    cases base with
    | mapping entries =>
      rw [merge_mapping]
      exact well.mergeEntries fun entry member => ⟨keys entry member, fun base wellBase => ih entry member wellBase⟩
    | _ => simpa [Tree.merge] using WellFormed.mapping distinct keys values

theorem WellFormed.of_cons {entry : Tree × Tree} (well : (Tree.mapping (entry :: entries)).WellFormed) :
    (∀ later ∈ entries, same entry.1 later.1 = false) ∧ entry.1.WellFormed ∧ entry.2.WellFormed ∧
      (Tree.mapping entries).WellFormed := by
  obtain ⟨distinct, each⟩ := wellFormed_mapping_iff.mp well
  obtain ⟨fresh, distinct⟩ := List.pairwise_cons.mp distinct
  obtain ⟨⟨wellKey, wellValue⟩, each⟩ := List.forall_mem_cons.mp each
  exact ⟨fresh, wellKey, wellValue, wellFormed_mapping_iff.mpr ⟨distinct, each⟩⟩

/-- Under a key, entries laid over others have what the two have there, one laid over the other. -/
theorem lookup_mergeEntries (well : (mapping entries).WellFormed) (overWell : (mapping overlay).WellFormed)
    (wellKey : key.WellFormed) :
    lookup key (mergeEntries entries overlay) = overlaid (lookup key entries) (lookup key overlay) := by
  induction overlay generalizing entries with
  | nil => simp [mergeEntries, lookup]
  | cons entry rest ih =>
    obtain ⟨fresh, wellEntry, wellValue, later⟩ := overWell.of_cons
    rw [mergeEntries_cons, ih (well.enter wellEntry fun base wellBase => wellBase.merge wellValue) later,
      lookup_enter well.key_of_mem wellEntry wellKey, lookup_cons]
    split
    · rename_i here
      -- What has met its key is not met by it again.
      have absent : lookup key rest = none := by
        refine lookup_eq_none_iff.mpr fun next member => Bool.eq_false_iff.mpr fun also => ?_
        cases (fresh next member).symm.trans (wellEntry.same_euclid wellKey (later.key_of_mem next member) here also)
      rw [absent, overlaid_none]
    · rfl

/-- The keys of entries that are laid over others and that those do not have come after those of the others. -/
theorem map_fst_mergeEntries (well : (mapping entries).WellFormed) (overWell : (mapping overlay).WellFormed) :
    (mergeEntries entries overlay).map Prod.fst =
      entries.map Prod.fst ++ (overlay.map Prod.fst).filter fun key => (lookup key entries).isNone := by
  induction overlay generalizing entries with
  | nil => simp [mergeEntries]
  | cons entry rest ih =>
    obtain ⟨fresh, wellEntry, wellValue, later⟩ := overWell.of_cons
    have untouched : ∀ key ∈ rest.map Prod.fst,
        (lookup key (enter entries entry.1 entry.2)).isNone = (lookup key entries).isNone := by
      refine List.forall_mem_map.mpr fun next member => ?_
      rw [lookup_enter well.key_of_mem wellEntry (later.key_of_mem next member), fresh next member]
      rfl
    rw [mergeEntries_cons, ih (well.enter wellEntry fun base wellBase => wellBase.merge wellValue) later,
      List.filter_congr untouched, map_fst_enter, List.map_cons, List.filter_cons, List.append_assoc]
    split <;> rfl

end Entries

section Steps

variable {base overlay key : Tree}

theorem WellFormed.of_child? {tree child : Tree} (well : tree.WellFormed) (found : tree.child? key = some child) :
    child.WellFormed := by
  cases well with
  | mapping _ _ values =>
    obtain ⟨entry, member, -, rfl⟩ := exists_mem_of_lookup found
    exact values entry member
  | _ => cases found

theorem WellFormed.beneath {tree : Tree} (well : tree.WellFormed) (key : Tree) : (tree.beneath key).WellFormed := by
  rw [Tree.beneath]
  cases found : tree.child? key with
  | none => exact .null
  | some child => exact well.of_child? found

/-- A well-formed tree that others are laid over entry by entry, or that says nothing. -/
structure Layered (tree : Tree) : Prop where
  well : tree.WellFormed
  layer : tree.IsLayer

theorem Layered.null : Tree.null.Layered := ⟨.null, .null⟩

theorem Layered.merge (layered : base.Layered) (overLayered : overlay.Layered) : (base.merge overlay).Layered :=
  ⟨layered.well.merge overLayered.well, layered.layer.merge overLayered.layer⟩

theorem child?_merge (layered : base.Layered) (overLayered : overlay.Layered) (wellKey : key.WellFormed) :
    (base.merge overlay).child? key = overlaid (base.child? key) (overlay.child? key) := by
  obtain ⟨well, layer⟩ := layered
  obtain ⟨overWell, overLayer⟩ := overLayered
  cases overLayer with
  | null => rw [merge_null]; rfl
  | mapping overlay =>
    cases layer with
    | null => rw [null_merge]; exact (none_overlaid _).symm
    | mapping entries =>
      rw [merge_mapping]
      exact lookup_mergeEntries well overWell wellKey

theorem beneath_merge (layered : base.Layered) (overLayered : overlay.Layered) (wellKey : key.WellFormed) :
    (base.merge overlay).beneath key = (base.beneath key).merge (overlay.beneath key) := by
  rw [beneath, child?_merge layered overLayered wellKey]
  exact getD_overlaid _ _

theorem keys_merge (layered : base.Layered) (overLayered : overlay.Layered) :
    (base.merge overlay).keys = base.keys ++ overlay.keys.filter fun key => (base.child? key).isNone := by
  obtain ⟨well, layer⟩ := layered
  obtain ⟨overWell, overLayer⟩ := overLayered
  cases overLayer with
  | null => simp [merge_null, keys]
  | mapping overlay =>
    cases layer with
    | null => simp [null_merge, keys, child?]
    | mapping entries =>
      rw [merge_mapping]
      exact map_fst_mergeEntries well overWell

/-- What is laid over a tree takes its place, unless it is null or both are mappings. -/
theorem merge_eq_overlay (proper : overlay ≠ null)
    (apart : ¬((∃ entries, base = mapping entries) ∧ ∃ entries, overlay = mapping entries)) :
    base.merge overlay = overlay := by
  cases overlay with
  | null => exact absurd rfl proper
  | mapping overlay =>
    cases base with
    | mapping entries => exact absurd ⟨⟨entries, rfl⟩, overlay, rfl⟩ apart
    | _ => simp [merge]
  | _ => simp [merge]

end Steps

section Paths

variable {base overlay : Tree} {path : List Tree}

/-- That two trees have mappings at the end of a path. -/
def BothMap (base overlay : Tree) (path : List Tree) : Prop :=
  (∃ entries, base.at? path = some (mapping entries)) ∧ ∃ entries, overlay.at? path = some (mapping entries)

/-- What comes of a value that may be missing when another that may be is laid over it. -/
inductive Laid : Option Tree → Option Tree → Option Tree → Prop where
  | untouched (base : Option Tree) : Laid base none base
  | null (base : Option Tree) : Laid base (some null) (some (base.getD null))
  | mappings {entries overlay merged : List (Tree × Tree)}
      (distinct : merged.Pairwise fun earlier later => same earlier.1 later.1 = false)
      (keys : merged.map Prod.fst =
        entries.map Prod.fst ++ (overlay.map Prod.fst).filter fun key => entries.all fun entry => !same entry.1 key) :
      Laid (some (mapping entries)) (some (mapping overlay)) (some (mapping merged))
  | replaced (base : Option Tree) {overlay : Tree} (proper : overlay ≠ null)
      (apart : ¬((∃ entries, base = some (mapping entries)) ∧ ∃ entries, overlay = mapping entries)) :
      Laid base (some overlay) (some overlay)

theorem WellFormed.of_at? {tree : Tree} (well : tree.WellFormed) : ∀ value ∈ tree.at? path, value.WellFormed := by
  induction path generalizing tree with
  | nil => exact fun _ found => Option.some.inj found ▸ well
  | cons key path ih =>
    intro value found
    obtain ⟨child, foundChild, foundRest⟩ := Option.bind_eq_some_iff.mp found
    exact ih (well.of_child? foundChild) value foundRest

theorem BothMap.cons {base overlay child overChild key : Tree} (found : base.child? key = some child)
    (overFound : overlay.child? key = some overChild) :
    BothMap base overlay (key :: path) ↔ BothMap child overChild path := by
  simp [BothMap, at?, found, overFound]

theorem BothMap.isLayer (both : BothMap base overlay []) : base.IsLayer ∧ overlay.IsLayer := by
  obtain ⟨⟨entries, same⟩, overEntries, overSame⟩ := both
  cases same
  cases overSame
  exact ⟨.mapping entries, .mapping overEntries⟩

/-- At the end of a path that leads through mappings of both trees, the result has what the two have there, one laid over
the other. -/
theorem at?_merge (well : base.WellFormed) (overWell : overlay.WellFormed) (wellPath : ∀ key ∈ path, key.WellFormed)
    (through : ∀ before, before <+: path → before ≠ path → BothMap base overlay before) :
    (base.merge overlay).at? path = overlaid (base.at? path) (overlay.at? path) := by
  induction path generalizing base overlay with
  | nil => rfl
  | cons key path ih =>
    obtain ⟨wellKey, wellPath⟩ := List.forall_mem_cons.mp wellPath
    obtain ⟨layer, overLayer⟩ := (through [] List.nil_prefix (by simp)).isLayer
    rw [at?, at?, at?, child?_merge ⟨well, layer⟩ ⟨overWell, overLayer⟩ wellKey]
    cases overFound : overlay.child? key with
    | none => simp
    | some overChild =>
      cases found : base.child? key with
      | none =>
        -- A longer path would lead through a mapping of the base that is not there.
        cases path with
        | nil => simp [at?]
        | cons next path =>
          obtain ⟨⟨entries, missing⟩, -⟩ := through [key] (by simp) (by simp)
          simp [at?, found] at missing
      | some child =>
        refine ih (well.of_child? found) (overWell.of_child? overFound) wellPath fun before shorter proper => ?_
        refine (BothMap.cons found overFound).mp (through (key :: before) ?_ ?_)
        · simpa using shorter
        · simpa using proper

theorem laid_overlaid {base overlay : Option Tree} (well : ∀ tree ∈ base, tree.WellFormed)
    (overWell : ∀ tree ∈ overlay, tree.WellFormed) : Laid base overlay (overlaid base overlay) := by
  cases overlay with
  | none => exact .untouched base
  | some overlay =>
    rw [overlaid]
    by_cases null : overlay = null
    · subst null
      rw [merge_null]
      exact .null base
    by_cases both : (∃ entries, base = some (mapping entries)) ∧ ∃ entries, overlay = mapping entries
    · obtain ⟨⟨entries, rfl⟩, overEntries, rfl⟩ := both
      have wellBoth := (well _ rfl).merge (overWell _ rfl)
      rw [merge_mapping] at wellBoth
      rw [Option.getD_some, merge_mapping]
      have keys := map_fst_mergeEntries (well _ rfl) (overWell _ rfl)
      simp only [isNone_lookup] at keys
      exact .mappings wellBoth.distinct keys
    · rw [merge_eq_overlay null]
      · exact .replaced base null both
      · rintro ⟨⟨entries, same⟩, mapped⟩
        cases base with
        | none => cases same
        | some base => exact both ⟨⟨entries, congrArg some same⟩, mapped⟩

/-- What is neither null nor a mapping takes the place of whatever was there. -/
theorem at?_merge_of_leaf {value : Tree} (well : base.WellFormed) (overWell : overlay.WellFormed)
    (wellPath : ∀ key ∈ path, key.WellFormed) (found : overlay.at? path = some value) (proper : value ≠ null)
    (leaf : ∀ entries, value ≠ mapping entries) : (base.merge overlay).at? path = some value := by
  induction path generalizing base overlay with
  | nil =>
    cases found
    exact congrArg some (merge_eq_overlay proper fun both => both.2.elim leaf)
  | cons key path ih =>
    obtain ⟨wellKey, wellPath⟩ := List.forall_mem_cons.mp wellPath
    obtain ⟨child, foundChild, foundRest⟩ := Option.bind_eq_some_iff.mp found
    cases overlay with
    | mapping overlay =>
      by_cases layer : base.IsLayer
      · rw [at?, child?_merge ⟨well, layer⟩ ⟨overWell, .mapping overlay⟩ wellKey, foundChild]
        refine ih ?_ (overWell.of_child? foundChild) wellPath foundRest
        cases below : base.child? key with
        | none => exact .null
        | some baseChild => exact well.of_child? below
      · have apart : ¬((∃ entries, base = mapping entries) ∧ ∃ entries, mapping overlay = mapping entries) := by
          rintro ⟨⟨entries, rfl⟩, -⟩
          exact layer (.mapping entries)
        rwa [@merge_eq_overlay base (mapping overlay) nofun apart]
    | _ => cases foundChild

/-- A value is lost only where something on the way to it was replaced. -/
theorem replaced_of_at?_merge_eq_none {value : Tree} (well : base.WellFormed) (overWell : overlay.WellFormed)
    (wellPath : ∀ key ∈ path, key.WellFormed) (found : base.at? path = some value)
    (lost : (base.merge overlay).at? path = none) :
    ∃ before, before <+: path ∧ (∃ tree, overlay.at? before = some tree ∧ tree ≠ null) ∧
      ¬BothMap base overlay before := by
  induction path generalizing base overlay with
  | nil => cases lost
  | cons key path ih =>
    obtain ⟨wellKey, wellPath⟩ := List.forall_mem_cons.mp wellPath
    obtain ⟨child, foundChild, foundRest⟩ := Option.bind_eq_some_iff.mp found
    by_cases null : overlay = null
    · rw [null, merge_null, found] at lost
      cases lost
    by_cases both : BothMap base overlay []
    · obtain ⟨layer, overLayer⟩ := both.isLayer
      rw [at?, child?_merge ⟨well, layer⟩ ⟨overWell, overLayer⟩ wellKey, foundChild] at lost
      cases overFound : overlay.child? key with
      | none =>
        rw [overFound, overlaid_none] at lost
        cases lost.symm.trans foundRest
      | some overChild =>
        rw [overFound] at lost
        obtain ⟨before, shorter, ⟨tree, there, proper⟩, apart⟩ :=
          ih (well.of_child? foundChild) (overWell.of_child? overFound) wellPath foundRest lost
        refine ⟨key :: before, by simpa using shorter, ⟨tree, ?_, proper⟩, ?_⟩
        · rw [at?, overFound]
          exact there
        · exact mt (BothMap.cons foundChild overFound).mp apart
    · exact ⟨[], List.nil_prefix, ⟨overlay, rfl, null⟩, both⟩

/-- What laying one tree over another does, path by path: what comes of the two values at the end of a path that leads
through mappings of both, that what is neither null nor a mapping is taken over at any path, and where a value can be
lost. -/
theorem merge_along_paths (well : base.WellFormed) (overWell : overlay.WellFormed)
    (wellPath : ∀ key ∈ path, key.WellFormed) :
    ((∀ before, before <+: path → before ≠ path → BothMap base overlay before) →
      Laid (base.at? path) (overlay.at? path) ((base.merge overlay).at? path)) ∧
    (∀ value, overlay.at? path = some value → value ≠ null → (∀ entries, value ≠ mapping entries) →
      (base.merge overlay).at? path = some value) ∧
    ((base.at? path).isSome → (base.merge overlay).at? path = none →
      ∃ before, before <+: path ∧ (∃ tree, overlay.at? before = some tree ∧ tree ≠ null) ∧
        ¬BothMap base overlay before) := by
  refine ⟨fun through => ?_, fun value => at?_merge_of_leaf well overWell wellPath, fun present => ?_⟩
  · rw [at?_merge well overWell wellPath through]
    exact laid_overlaid well.of_at? overWell.of_at?
  · obtain ⟨value, found⟩ := Option.isSome_iff_exists.mp present
    exact replaced_of_at?_merge_eq_none well overWell wellPath found

def standing : Tree :=
  mapping [(text "links", mapping [(text "lan", text "up"), (text "wan", mapping [(text "mtu", text "9000")])]),
    (number (.float (.finite false 0 0)), text "old")]

def changes : Tree :=
  mapping [(text "links", mapping [(text "lan", null), (text "wan", text "down"), (text "new", mapping [(null, null)])]),
    (number (.float (.finite true 0 0)), tagged "t" null)]

theorem standing_wellFormed : standing.WellFormed := by
  simp [standing, same]

theorem changes_wellFormed : changes.WellFormed := by
  simp [changes, same]

theorem merge_along_paths_links :
    standing.WellFormed ∧ changes.WellFormed ∧
    (∀ key ∈ [text "links", text "wan"], key.WellFormed) ∧
    Laid (some (mapping [(text "mtu", text "9000")])) (some (text "down"))
      ((standing.merge changes).at? [text "links", text "wan"]) ∧
    (standing.merge changes).at? [text "links", text "wan"] = some (text "down") ∧
    (∀ key ∈ [text "links", text "wan", text "mtu"], key.WellFormed) ∧
    ∃ before, before <+: [text "links", text "wan", text "mtu"] ∧
      (∃ tree, changes.at? before = some tree ∧ tree ≠ null) ∧ ¬BothMap standing changes before := by
  have wellWan : ∀ key ∈ [text "links", text "wan"], key.WellFormed := by simp
  have wellMtu : ∀ key ∈ [text "links", text "wan", text "mtu"], key.WellFormed := by simp
  have there : standing.at? [text "links", text "wan"] = some (mapping [(text "mtu", text "9000")]) := by
    simp [at?, child?, lookup, same, standing]
  have laidOver : changes.at? [text "links", text "wan"] = some (text "down") := by
    simp [at?, child?, lookup, same, changes]
  have present : (standing.at? [text "links", text "wan", text "mtu"]).isSome := by
    simp [at?, child?, lookup, same, standing]
  have gone : (standing.merge changes).at? [text "links", text "wan", text "mtu"] = none := by
    simp [at?, child?, lookup, same, Number.same, Binary64.same, merge, mergeEntries, replace, standing, changes]
  obtain ⟨laid, leaf, -⟩ := merge_along_paths standing_wellFormed changes_wellFormed wellWan
  obtain ⟨-, -, lost⟩ := merge_along_paths standing_wellFormed changes_wellFormed wellMtu
  refine ⟨standing_wellFormed, changes_wellFormed, wellWan, ?_, leaf _ laidOver (by simp) (by simp), wellMtu,
    lost present gone⟩
  rw [there, laidOver] at laid
  refine laid fun before shorter proper => ?_
  obtain rfl | rfl : before = [] ∨ before = [text "links"] := by grind [List.prefix_cons_iff]
  · simp [BothMap, at?, standing, changes]
  · simp [BothMap, at?, child?, lookup, same, standing, changes]

end Paths

end Relink.Yaml.Tree
