import Relink.Proofs.Yaml.Layout
import Relink.Proofs.Yaml.Resolve

namespace Relink.Yaml.Layout

/-- The entries that are given, of some that may be left out. -/
def given (entries : List (String × Option Layout)) : List (String × Layout) :=
  entries.filterMap fun entry => entry.2.map (entry.1, ·)

/-- The block of some entries; of none there is none. -/
def block? (entries : List (String × Layout)) : Option Layout :=
  if entries.isEmpty then none else some (.block entries)

/-- Entries that make up a legible block, if there are any. -/
structure AllLegible (depth : Nat) (entries : List (String × Layout)) : Prop where
  distinct : (entries.map Prod.fst).Nodup
  keys : ∀ entry ∈ entries, IsKey entry.1
  values : ∀ entry ∈ entries, Legible depth entry.2

variable {depth column : Nat} {name : String} {value : Option Layout} {layout : Layout} {entries : List (String × Layout)}
  {optional : List (String × Option Layout)}

/-- A short word that begins with a letter is a key, unless it stands for a value. -/
theorem isKey_of_isAlpha (letter : name.toList.head?.any Char.isAlpha = true)
    (names : ∀ c ∈ name.toList, isNameChar c = true) (proper : name ∉ valueWords)
    (short : name.length ≤ KeyCandidate.greatestLength) : IsKey name := by
  cases spelled : name.toList with
  | nil => simp [spelled] at letter
  | cons first rest =>
    rw [spelled] at letter
    have alphanum : first.isAlphanum = true := by simp [Char.isAlphanum, show first.isAlpha = true from letter]
    exact ⟨⟨⟨⟨first, rest, spelled, alphanum⟩, names⟩, Tree.ofPlain?_of_isAlpha spelled letter proper⟩, short⟩

theorem tree_bare (isName : IsName name) : (bare name).tree = .text name := by
  rw [tree, isName.reads]
  rfl

theorem IsName.legible (isName : IsName name) : Legible depth (bare name) :=
  .bare isName.spelled isName.reads

theorem mem_given {entry : String × Layout} : entry ∈ given optional ↔ (entry.1, some entry.2) ∈ optional := by
  simp only [given, List.mem_filterMap, Option.map_eq_some_iff]
  constructor
  · rintro ⟨⟨name, value⟩, member, layout, rfl, rfl⟩
    exact member
  · exact fun member => ⟨_, member, _, rfl, rfl⟩

theorem given_sublist (optional : List (String × Option Layout)) :
    ((given optional).map Prod.fst).Sublist (optional.map Prod.fst) := by
  induction optional with
  | nil => exact .slnil
  | cons entry rest ih =>
    obtain ⟨name, value⟩ := entry
    cases value with
    | none => exact ih.cons name
    | some value => exact ih.cons_cons name

/-- Entries of which some may be left out are legible if those are that are given. -/
theorem AllLegible.given (distinct : (optional.map Prod.fst).Nodup) (keys : ∀ name ∈ optional.map Prod.fst, IsKey name)
    (values : ∀ entry ∈ optional, ∀ value ∈ entry.2, Legible depth value) : AllLegible depth (given optional) where
  distinct := (given_sublist optional).nodup distinct
  keys _ member := keys _ (List.mem_map.mpr ⟨_, mem_given.mp member, rfl⟩)
  values _ member := values _ (mem_given.mp member) _ rfl

theorem AllLegible.append {further : List (String × Layout)} (all : AllLegible depth entries)
    (others : AllLegible depth further) (apart : ∀ name ∈ entries.map Prod.fst, name ∉ further.map Prod.fst) :
    AllLegible depth (entries ++ further) where
  distinct := by
    rw [List.map_append]
    exact List.nodup_append'.mpr ⟨all.distinct, others.distinct, apart⟩
  keys := List.forall_mem_append.mpr ⟨all.keys, others.keys⟩
  values := List.forall_mem_append.mpr ⟨all.values, others.values⟩

theorem AllLegible.block? (all : AllLegible depth entries) (member : layout ∈ block? entries) :
    Legible (depth + 1) layout := by
  rw [Layout.block?] at member
  split at member
  · cases member
  · rename_i filled
    cases member
    exact .block (by simpa using filled) all.distinct all.keys all.values

theorem valueOf?_given (distinct : (optional.map Prod.fst).Nodup) (member : (name, value) ∈ optional) :
    Tree.valueOf? name (Tree.named (trees (given optional))) = value.map tree := by
  have keys : (trees (given optional)).map Prod.fst = (given optional).map Prod.fst := by
    simp [trees_eq_map]
  rw [Tree.valueOf?_named]
  cases value with
  | some value =>
    have present : (name, value.tree) ∈ trees (given optional) := by
      rw [trees_eq_map]
      exact List.mem_map.mpr ⟨(name, value), mem_given.mpr member, rfl⟩
    exact Tree.lookup_of_mem (keys ▸ (given_sublist optional).nodup distinct) present
  | none =>
    refine Tree.lookup_eq_none_of_not_mem fun present => ?_
    rw [keys] at present
    obtain ⟨entry, found, rfl⟩ := List.mem_map.mp present
    -- Of the two entries of that name one is left out and the other is not.
    have same := List.inj_on_of_nodup_map distinct (mem_given.mp found) member rfl
    cases same

section Lines

theorem lines_append (column : Nat) (first second : List (String × Layout)) :
    lines column (first ++ second) = lines column first ++ lines column second := by
  induction first with
  | nil => rfl
  | cons entry rest ih => rw [List.cons_append, lines, lines, ih, List.append_assoc]

theorem lines_given (column : Nat) (optional : List (String × Option Layout)) :
    lines column (given optional) = optional.flatMap fun entry => entry.2.elim [] (entryLines column entry.1) := by
  induction optional with
  | nil => rfl
  | cons entry rest ih =>
    obtain ⟨name, value⟩ := entry
    cases value with
    | none => exact ih
    | some value =>
      rw [List.flatMap_cons, ← ih]
      rfl

end Lines

end Relink.Yaml.Layout
