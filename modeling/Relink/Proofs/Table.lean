import Relink.Table

namespace Relink.Table

variable {α : Type} {name : String} {value : α}

theorem names_ordered (t : Table α) : t.names.Pairwise (· < ·) :=
  List.pairwise_map.mpr t.ordered

theorem names_nodup (t : Table α) : t.names.Nodup := by
  refine t.names_ordered.imp ?_
  intro first second less same
  subst same
  exact String.lt_irrefl first less

theorem get?_eq_some_iff (t : Table α) : t.get? name = some value ↔ (name, value) ∈ t.entries := by
  constructor
  · intro found
    obtain ⟨earlier, later, split, _⟩ := List.lookup_eq_some_iff.mp found
    simp [split]
  · intro member
    obtain ⟨earlier, later, split⟩ := List.append_of_mem member
    refine List.lookup_eq_some_iff.mpr ⟨earlier, later, split, ?_⟩
    intro entry before
    have ordered := t.ordered
    rw [split] at ordered
    have less : entry.1 < name :=
      (List.pairwise_append.mp ordered).2.2 entry before (name, value) (by simp)
    have differs : name ≠ entry.1 := by
      intro same
      exact String.lt_irrefl name (same ▸ less)
    simpa using differs

theorem mem_names_iff (t : Table α) : name ∈ t.names ↔ ∃ value, t.get? name = some value := by
  constructor
  · intro member
    obtain ⟨entry, present, same⟩ := List.mem_map.mp member
    subst same
    exact ⟨entry.2, t.get?_eq_some_iff.mpr present⟩
  · rintro ⟨value, found⟩
    exact List.mem_map.mpr ⟨(name, value), t.get?_eq_some_iff.mp found, rfl⟩

theorem contains_iff (t : Table α) : t.contains name = true ↔ ∃ value, t.get? name = some value :=
  Option.isSome_iff_exists

theorem contains_eq_false_iff (t : Table α) : t.contains name = false ↔ t.get? name = none :=
  Option.isSome_eq_false_iff.trans Option.isNone_iff_eq_none

def insertAll (t : Table α) (entries : List (String × α)) : Table α :=
  entries.foldl (fun t entry => t.insert entry.1 entry.2) t

theorem ofList_eq (entries : List (String × α)) : ofList entries = insertAll ∅ entries := rfl

@[simp] theorem insertAll_nil (t : Table α) : t.insertAll [] = t := rfl

@[simp] theorem insertAll_cons (t : Table α) (entry : String × α) (rest : List (String × α)) :
    t.insertAll (entry :: rest) = (t.insert entry.1 entry.2).insertAll rest := rfl

theorem insertAll_append (t : Table α) (first second : List (String × α)) :
    t.insertAll (first ++ second) = (t.insertAll first).insertAll second :=
  List.foldl_append

/-- Of two entries under one name the later one stays. -/
theorem get?_insertAll (t : Table α) (entries : List (String × α)) (name : String) :
    (t.insertAll entries).get? name = (entries.reverse.lookup name).or (t.get? name) := by
  induction entries generalizing t with
  | nil => simp
  | cons entry rest ih =>
    obtain ⟨key, value⟩ := entry
    rw [insertAll_cons, ih, get?_insert, List.reverse_cons, List.lookup_append]
    by_cases same : name = key
    · subst same
      cases rest.reverse.lookup name <;> simp
    · simp [same, List.lookup_cons, beq_eq_false_iff_ne.mpr same]

theorem mem_of_get?_ofList {entries : List (String × α)}
    (found : (ofList entries).get? name = some value) : (name, value) ∈ entries := by
  rw [ofList_eq, get?_insertAll, get?_empty, Option.or_none] at found
  obtain ⟨earlier, later, split, _⟩ := List.lookup_eq_some_iff.mp found
  have member : (name, value) ∈ entries.reverse := by simp [split]
  exact List.mem_reverse.mp member

theorem mem_names_ofList {entries : List (String × α)} :
    name ∈ (ofList entries).names ↔ name ∈ entries.map Prod.fst := by
  rw [mem_names_iff, ← Option.isSome_iff_exists, ofList_eq, get?_insertAll, get?_empty, Option.or_none,
    List.lookup_isSome_iff, List.mem_map]
  constructor
  · rintro ⟨entry, member, same⟩
    exact ⟨entry, List.mem_reverse.mp member, (beq_iff_eq.mp same).symm⟩
  · rintro ⟨entry, member, same⟩
    exact ⟨entry, List.mem_reverse.mpr member, beq_iff_eq.mpr same.symm⟩

/-- The table of a function's values: a name that was listed has its value, however often and wherever it
was. -/
theorem get?_ofList_filterMap (f : String → Option α) (names : List String) (name : String) :
    (ofList (names.filterMap fun name => (f name).map fun value => (name, value))).get? name =
      if name ∈ names then f name else none := by
  have general (names : List String) (t : Table α) :
      (t.insertAll (names.filterMap fun name => (f name).map fun value => (name, value))).get? name =
        if name ∈ names then (f name).or (t.get? name) else t.get? name := by
    induction names generalizing t with
    | nil => simp
    | cons first rest ih =>
      cases computed : f first with
      | none =>
        rw [List.filterMap_cons_none (by simp [computed]), ih]
        by_cases same : name = first
        · subst same; simp [computed]
        · simp [same]
      | some value =>
        rw [List.filterMap_cons_some (b := (first, value)) (by simp [computed]), insertAll_cons, ih,
          get?_insert]
        by_cases same : name = first
        · subst same; simp [computed]
        · simp [same]
  rw [ofList_eq, general]
  simp

end Relink.Table
