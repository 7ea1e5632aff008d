/-! Finite maps from names, kept in the order of the names. `get?_insert` and `get?_erase` say what each
change does to a look-up. -/

namespace Relink

/-- Values under names, in the order of the names. -/
structure Table (α : Type) where
  entries : List (String × α)
  ordered : entries.Pairwise fun a b => a.1 < b.1

namespace Table

variable {α : Type}

def empty : Table α := ⟨[], .nil⟩

instance : EmptyCollection (Table α) := ⟨empty⟩

instance : Inhabited (Table α) := ⟨empty⟩

def get? (t : Table α) (name : String) : Option α :=
  t.entries.lookup name

def contains (t : Table α) (name : String) : Bool :=
  (t.get? name).isSome

def names (t : Table α) : List String :=
  t.entries.map Prod.fst

/-- Puts an entry at its place among ordered ones; an entry of the same name goes. -/
def place (name : String) (value : α) : List (String × α) → List (String × α)
  | [] => [(name, value)]
  | entry :: rest =>
    if name < entry.1 then (name, value) :: entry :: rest
    else if name = entry.1 then (name, value) :: rest
    else entry :: place name value rest

theorem mem_place {name : String} {value : α} {entries : List (String × α)} {entry : String × α}
    (member : entry ∈ place name value entries) : entry = (name, value) ∨ entry ∈ entries := by
  induction entries with
  | nil => simpa [place] using member
  | cons first rest ih =>
    unfold place at member
    grind

theorem place_ordered {name : String} {value : α} {entries : List (String × α)}
    (ordered : entries.Pairwise fun a b => a.1 < b.1) :
    (place name value entries).Pairwise fun a b => a.1 < b.1 := by
  induction entries with
  | nil => simp [place]
  | cons first rest ih =>
    have tail := ih (List.pairwise_cons.1 ordered).2
    have first_lt := (List.pairwise_cons.1 ordered).1
    unfold place
    split
    · refine List.pairwise_cons.2 ⟨?_, ordered⟩
      intro entry member
      rcases List.mem_cons.1 member with rfl | member
      · assumption
      · exact String.lt_trans ‹_› (first_lt entry member)
    · split
      · refine List.pairwise_cons.2 ⟨?_, (List.pairwise_cons.1 ordered).2⟩
        intro entry member
        have := first_lt entry member
        simp_all
      · refine List.pairwise_cons.2 ⟨?_, tail⟩
        intro entry member
        rcases mem_place member with rfl | member
        · grind
        · exact first_lt entry member

/-- Gives a name a value, in the place of an earlier one. -/
def insert (t : Table α) (name : String) (value : α) : Table α :=
  ⟨place name value t.entries, place_ordered t.ordered⟩

def erase (t : Table α) (name : String) : Table α :=
  ⟨t.entries.filter fun entry => entry.1 ≠ name, t.ordered.filter _⟩

/-- Inserts entries one after the other, so that of two under one name the last stays. -/
def ofList (entries : List (String × α)) : Table α :=
  entries.foldl (fun t entry => t.insert entry.1 entry.2) ∅

@[simp] theorem get?_empty (name : String) : (∅ : Table α).get? name = none := rfl

theorem lookup_place (name : String) (value : α) (entries : List (String × α)) (other : String) :
    (place name value entries).lookup other =
      if other = name then some value else entries.lookup other := by
  induction entries with
  | nil =>
    by_cases same : other = name
    · simp [place, same]
    · simp [place, List.lookup_cons, same, beq_eq_false_iff_ne.2 same]
  | cons first rest ih =>
    obtain ⟨key, old⟩ := first
    unfold place
    by_cases same : other = name
    · subst same
      split
      · simp
      · split
        · simp
        · have differs : (other == key) = false := by simpa using ‹¬ other = key›
          simp [List.lookup_cons, differs, ih]
    · have differs : (other == name) = false := beq_eq_false_iff_ne.2 same
      split
      · simp [List.lookup_cons, differs]
      · split
        · rename_i eq
          have eq : name = key := eq
          simp [List.lookup_cons, ← eq, differs]
        · cases here : other == key <;> simp [List.lookup_cons, here, ih, same]

@[simp] theorem get?_insert (t : Table α) (name : String) (value : α) (other : String) :
    (t.insert name value).get? other = if other = name then some value else t.get? other :=
  lookup_place name value t.entries other

theorem lookup_filter_ne (name : String) (entries : List (String × α)) (other : String) :
    (entries.filter fun entry => entry.1 ≠ name).lookup other =
      if other = name then none else entries.lookup other := by
  induction entries with
  | nil => simp
  | cons first rest ih =>
    obtain ⟨key, old⟩ := first
    by_cases here : key = name
    · rw [List.filter_cons_of_neg (by simpa using here), ih]
      by_cases same : other = name
      · simp [same]
      · have differs : (other == key) = false := by simpa [here] using same
        simp [List.lookup_cons, differs, same]
    · rw [List.filter_cons_of_pos (by simpa using here)]
      cases there : other == key with
      | true =>
        have differs : other ≠ name := fun eq => here (by simpa [eq] using (beq_iff_eq.1 there).symm)
        simp [List.lookup_cons, there, differs]
      | false => simpa [List.lookup_cons, there] using ih

@[simp] theorem get?_erase (t : Table α) (name other : String) :
    (t.erase name).get? other = if other = name then none else t.get? other :=
  lookup_filter_ne name t.entries other

end Table

abbrev NameSet := Table Unit

def NameSet.ofNames (names : List String) : NameSet :=
  Table.ofList (names.map fun name => (name, ()))

end Relink
