import Relink.Glob.Search

/-! What a tree of files shows without the contents of its files. Where a path leads, what a directory lists and what a
pattern finds hang on nothing else, and a reading only on the one entry that its path leads to. -/

namespace Relink.Files

def Entry.outline : Entry → Entry
  | .file _ executable => .file [] executable
  | entry => entry

theorem Entry.outline_eq_directory {entry : Entry} : entry.outline = .directory ↔ entry = .directory := by
  cases entry <;> simp [outline]

def Tree.outline (tree : Tree) : Tree :=
  ⟨tree.entries.map fun old => (old.1, old.2.outline)⟩

/-- Where a path leads, without the content of a file. -/
def Tree.Target.outline : Tree.Target → Tree.Target
  | .found place entry => .found place entry.outline
  | .free place => .free place

namespace Tree

variable (tree : Tree)

theorem at?_outline (place : Place) : tree.outline.at? place = (tree.at? place).map Entry.outline := by
  unfold at? outline
  split
  · rfl
  · induction tree.entries with
    | nil => rfl
    | cons old rest ih =>
      rw [List.map_cons, List.lookup_cons, List.lookup_cons]
      cases place == old.1
      · exact ih
      · rfl

theorem walk_cons {step : String} (proper : step ≠ ".") (below : step ≠ "..")
    (fits : ¬ greatestNameSize < step.utf8ByteSize) (followLast : Bool) (links : Nat) (here : Place) (rest : List String) :
    tree.walk followLast links here (step :: rest) =
      match tree.at? (here ++ [step]) with
      | none => if rest.isEmpty then .ok (.free (here ++ [step])) else .error .notFound
      | some .directory => walk tree followLast links (here ++ [step]) rest
      | some (.link target) =>
        if rest.isEmpty && !followLast then .ok (.found (here ++ [step]) (.link target))
        else
          match links with
          | 0 => .error tooManyLinks
          | links + 1 =>
            walk tree followLast links (if target.toList.head? = some '/' then [] else here) (stepsOf target ++ rest)
      | some entry => if rest.isEmpty then .ok (.found (here ++ [step]) entry) else .error notDirectory := by
  rw [walk, if_neg proper, if_neg below]
  exact if_neg fits

/-- Every step of a walk asks an entry only whether it is a directory or a link. -/
theorem walk_outline (followLast : Bool) (links : Nat) (here : Place) : (steps : List String) →
    tree.outline.walk followLast links here steps = (tree.walk followLast links here steps).map Target.outline
  | [] => by
    rw [walk, walk]
    rfl
  | step :: rest => by
    by_cases stays : step = "."
    · rw [walk, walk, if_pos stays, if_pos stays]
      exact walk_outline followLast links here rest
    by_cases leaves : step = ".."
    · rw [walk, walk, if_neg stays, if_neg stays, if_pos leaves, if_pos leaves]
      exact walk_outline followLast links here.dropLast rest
    by_cases long : greatestNameSize < step.utf8ByteSize
    · rw [walk, walk, if_neg stays, if_neg stays, if_neg leaves, if_neg leaves, if_pos long, if_pos long]
      rfl
    rw [walk_cons _ stays leaves long, walk_cons _ stays leaves long, at?_outline]
    cases tree.at? (here ++ [step]) with
    | none => dsimp only [Option.map]; split <;> rfl
    | some entry =>
      cases entry with
      | directory => exact walk_outline followLast links (here ++ [step]) rest
      | link target =>
        dsimp only [Option.map, Entry.outline]
        split
        · rfl
        · cases links with
          | zero => rfl
          | succ links => exact walk_outline followLast links _ (stepsOf target ++ rest)
      | file | sink | program => dsimp only [Option.map, Entry.outline]; split <;> rfl
  termination_by steps => (links, steps.length)

theorem resolve_outline (followLast : Bool) (here : Place) (path : String) :
    tree.outline.resolve followLast here path = (tree.resolve followLast here path).map Target.outline := by
  unfold resolve
  simp only [walk_outline]
  split
  · rfl
  · split
    · rfl
    · split <;> rfl

theorem find_outline (here : Place) (path : String) :
    tree.outline.find here path = (tree.find here path).map fun led => (led.1, led.2.outline) := by
  unfold find
  rw [resolve_outline]
  rcases tree.resolve true here path with cause | place | place <;> rfl

theorem exists_outline (here : Place) (path : String) : tree.outline.exists_ here path = tree.exists_ here path := by
  unfold exists_
  rw [resolve_outline]
  rcases tree.resolve false here path with cause | place | place <;> rfl

theorem isDirectoryAt_outline (here : Place) (path : String) :
    tree.outline.isDirectoryAt here path = tree.isDirectoryAt here path := by
  unfold isDirectoryAt
  rw [find_outline]
  rcases tree.find here path with cause | ⟨place, entry⟩
  · rfl
  · cases entry <;> rfl

theorem names_outline (place : Place) : tree.outline.names place = tree.names place := by
  rw [names, names, outline, List.filterMap_map]
  rfl

theorem list_outline (here : Place) (path : String) : tree.outline.list here path = tree.list here path := by
  unfold list
  rw [find_outline]
  rcases tree.find here path with cause | ⟨place, entry⟩
  · rfl
  · cases entry <;> simp [Except.map, Entry.outline, names_outline]

/-- A walk ends at what stands at its place, or in a directory. -/
theorem at?_of_walk {tree : Tree} {followLast : Bool} {links : Nat} {here place : Place} {steps : List String}
    {entry : Entry} (led : tree.walk followLast links here steps = .ok (.found place entry)) :
    entry = .directory ∨ tree.at? place = some entry := by
  fun_induction tree.walk followLast links here steps with
  | case1 => cases led; exact .inl rfl
  | case2 _ _ _ ih => exact ih led
  | case3 _ _ _ _ ih => exact ih led
  | case7 _ _ _ _ _ _ _ _ _ ih => exact ih led
  | case10 _ _ _ _ _ _ _ _ _ _ _ _ ih => exact ih led
  | case8 _ _ _ _ _ _ _ _ _ found | case11 _ _ _ _ _ _ _ _ _ _ _ found =>
    simp only [Except.ok.injEq, Target.found.injEq] at led
    obtain ⟨rfl, rfl⟩ := led
    exact .inr found
  | case4 | case5 | case6 | case9 | case12 => cases led

theorem at?_of_find {tree : Tree} {here place : Place} {path : String} {entry : Entry}
    (led : tree.find here path = .ok (place, entry)) : entry = .directory ∨ tree.at? place = some entry := by
  have target : tree.resolve true here path = .ok (.found place entry) := by
    unfold find at led
    split at led <;> cases led
    assumption
  unfold resolve at target
  split at target
  · cases target
  · split at target
    · cases target
    · split at target
      · cases target
      · exact at?_of_walk target

variable {tree} {other : Tree} {here : Place} {path : String}

/-- A path leads to one entry in two trees that differ in contents only, unless it leads where they differ. -/
theorem find_congr (same : other.outline = tree.outline)
    (agree : ∀ place entry, tree.find here path = .ok (place, entry) → other.at? place = tree.at? place) :
    other.find here path = tree.find here path := by
  have shown := congrArg (·.find here path) same
  simp only [find_outline] at shown
  cases led : tree.find here path with
  | error cause =>
    rw [led] at shown
    cases there : other.find here path with
    | error => rw [there] at shown; simpa [Except.map] using shown
    | ok => rw [there] at shown; simp [Except.map] at shown
  | ok found =>
    obtain ⟨place, entry⟩ := found
    rw [led] at shown
    cases there : other.find here path with
    | error => rw [there] at shown; simp [Except.map] at shown
    | ok found =>
      obtain ⟨place', entry'⟩ := found
      rw [there] at shown
      simp only [Except.map, Except.ok.injEq, Prod.mk.injEq] at shown
      obtain ⟨rfl, shape⟩ := shown
      have alike : entry' = entry := by
        rcases at?_of_find led with rfl | stands
        · exact Entry.outline_eq_directory.mp shape
        rcases at?_of_find there with rfl | stands'
        · exact (Entry.outline_eq_directory.mp shape.symm).symm
        rw [agree _ _ led, stands] at stands'
        exact (Option.some.inj stands').symm
      rw [alike]

theorem readText_congr (same : other.outline = tree.outline)
    (agree : ∀ place entry, tree.find here path = .ok (place, entry) → other.at? place = tree.at? place) :
    other.readText here path = tree.readText here path := by
  rw [readText, readText, read, read, find_congr same agree]

end Tree

end Relink.Files

namespace Relink.Glob

variable (files : Files.Tree) (here : Files.Place)

theorem follow_outline (patterns : List Pattern) (path : String) (isDirectory : Bool) :
    follow files.outline here patterns path isDirectory = follow files here patterns path isDirectory := by
  induction patterns generalizing path isDirectory with
  | nil => rw [follow, follow]
  | cons pattern more ih =>
    simp only [follow, ih, files.exists_outline, files.isDirectoryAt_outline, files.list_outline]

theorem make_outline (onlyDirectories : Bool) (visit : Visit) :
    make files.outline here onlyDirectories visit = make files here onlyDirectories visit := by
  simp only [make, meet, follow_outline]

theorem search_outline (onlyDirectories : Bool) (fuel : Nat) (todo : List Visit) :
    search files.outline here onlyDirectories fuel todo = search files here onlyDirectories fuel todo := by
  induction fuel generalizing todo with
  | zero => rw [search, search]
  | succ fuel ih =>
    cases todo with
    | nil => rw [search, search]
    | cons visit todo => simp only [search, make_outline, ih]

theorem paths_outline (text : String) : paths files.outline here text = paths files here text := by
  have count : files.outline.entries.length = files.entries.length := List.length_map _
  simp only [paths, search_outline, follow_outline, files.isDirectoryAt_outline, count]

end Relink.Glob
