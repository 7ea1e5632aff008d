import Mathlib.Data.List.Forall2

/-! Attempts that may fail. Those made one after the other succeed if each of them does, and fail as the first does that
fails. -/

namespace Except

variable {ε α β : Type}

theorem bind_eq_ok_iff {attempt : Except ε α} {next : α → Except ε β} {value : β} :
    attempt >>= next = .ok value ↔ ∃ middle, attempt = .ok middle ∧ next middle = .ok value := by
  cases attempt <;> simp [bind, Except.bind]

theorem map_eq_ok_iff {attempt : Except ε α} {change : α → β} {value : β} :
    attempt.map change = .ok value ↔ ∃ middle, attempt = .ok middle ∧ change middle = value := by
  cases attempt <;> simp [Except.map]

theorem forM_id_eq_ok_iff {attempts : List (Except ε Unit)} :
    (forM attempts id : Except ε Unit) = .ok () ↔ ∀ attempt ∈ attempts, attempt = .ok () := by
  induction attempts with
  | nil => simp [pure, Except.pure]
  | cons attempt rest ih =>
    rw [List.forM_cons, bind_eq_ok_iff, List.forall_mem_cons, ← ih]
    exact ⟨fun ⟨_, here, later⟩ => ⟨here, later⟩, fun ⟨here, later⟩ => ⟨(), here, later⟩⟩

/-- Of attempts made one after the other the first that fails says why. -/
theorem forM_id_eq_error_iff {attempts : List (Except ε Unit)} {error : ε} :
    (forM attempts id : Except ε Unit) = .error error ↔
      ∃ before after, attempts = before ++ .error error :: after ∧ ∀ attempt ∈ before, attempt = .ok () := by
  induction attempts with
  | nil => simp [pure, Except.pure]
  | cons attempt rest ih =>
    rw [List.forM_cons]
    cases attempt with
    | error other =>
      constructor
      · rintro ⟨⟩
        exact ⟨[], rest, rfl, nofun⟩
      · rintro ⟨_ | ⟨first, before⟩, after, same, done⟩
        · cases same
          rfl
        · cases same
          cases done _ List.mem_cons_self
    | ok _ =>
      refine Iff.trans ih ⟨?_, ?_⟩
      · rintro ⟨before, after, rfl, done⟩
        exact ⟨.ok () :: before, after, rfl, List.forall_mem_cons.mpr ⟨rfl, done⟩⟩
      · rintro ⟨_ | ⟨first, before⟩, after, same, done⟩
        · cases same
        · cases same
          exact ⟨before, after, rfl, (List.forall_mem_cons.mp done).2⟩

/-- Items that are read one by one stand in line with what they are read as. -/
theorem forall₂_of_mapM_eq_ok {read : α → Except ε β} {items : List α} {values : List β}
    (done : items.mapM read = .ok values) : List.Forall₂ (fun item value => read item = .ok value) items values := by
  induction items generalizing values with
  | nil =>
    cases done
    exact .nil
  | cons item rest ih =>
    rw [List.mapM_cons] at done
    obtain ⟨value, here, done⟩ := bind_eq_ok_iff.mp done
    obtain ⟨more, later, done⟩ := bind_eq_ok_iff.mp done
    cases done
    exact .cons here (ih later)

theorem mapM_eq_ok {read : α → Except ε β} {meaning : α → β} {items : List α}
    (each : ∀ item ∈ items, read item = .ok (meaning item)) : items.mapM read = .ok (items.map meaning) := by
  induction items with
  | nil => rfl
  | cons item rest ih =>
    obtain ⟨here, later⟩ := List.forall_mem_cons.mp each
    rw [List.mapM_cons, here, ih later]
    rfl

/-- What is read from a list is what can be picked from it, if that is what each item is read as. -/
theorem eq_filterMap_of_mapM_eq_ok {read : α → Except ε β} {pick : α → Option β} {items : List α} {values : List β}
    (each : ∀ item value, read item = .ok value → pick item = some value) (done : items.mapM read = .ok values) :
    values = items.filterMap pick := by
  have aligned := forall₂_of_mapM_eq_ok done
  clear done
  induction aligned with
  | nil => rfl
  | cons here later ih => rw [List.filterMap_cons_some (each _ _ here), ← ih]

/-- An attempt that succeeds in one case only, and with one value. -/
def Yields (attempt : Except ε α) (accepted : Prop) (value : α) : Prop :=
  ∀ result, attempt = .ok result ↔ accepted ∧ result = value

namespace Yields

variable {attempt : Except ε α} {accepted also : Prop} {value : α} {last : β}

theorem eq_ok (yields : attempt.Yields accepted value) (holds : accepted) : attempt = .ok value :=
  (yields value).mpr ⟨holds, rfl⟩

theorem of_parts (parts : ∀ result, attempt = .ok result → accepted ∧ result = value)
    (done : accepted → ∃ result, attempt = .ok result) : attempt.Yields accepted value := by
  refine fun result => ⟨parts result, ?_⟩
  rintro ⟨holds, rfl⟩
  obtain ⟨result, done⟩ := done holds
  rw [done, (parts result done).2]

theorem ok (holds : accepted) : (Except.ok value : Except ε α).Yields accepted value := by
  intro result
  simp [holds, eq_comm]

theorem map (yields : attempt.Yields accepted value) (change : α → β) :
    (attempt.map change).Yields accepted (change value) := by
  intro result
  rw [map_eq_ok_iff]
  constructor
  · rintro ⟨middle, done, rfl⟩
    obtain ⟨holds, rfl⟩ := (yields middle).mp done
    exact ⟨holds, rfl⟩
  · rintro ⟨holds, rfl⟩
    exact ⟨value, yields.eq_ok holds, rfl⟩

theorem mapError (yields : attempt.Yields accepted value) {δ : Type} (change : ε → δ) :
    (attempt.mapError change).Yields accepted value := by
  intro result
  rw [← yields result]
  cases attempt <;> simp [Except.mapError]

theorem iff (yields : attempt.Yields accepted value) (same : accepted ↔ also) : attempt.Yields also value := by
  intro result
  rw [yields result, same]

theorem bind (yields : attempt.Yields accepted value) {next : α → Except ε β} (more : (next value).Yields also last) :
    (attempt >>= next).Yields (accepted ∧ also) last := by
  intro result
  rw [bind_eq_ok_iff]
  constructor
  · rintro ⟨middle, done, last⟩
    obtain ⟨holds, rfl⟩ := (yields middle).mp done
    obtain ⟨alsoHolds, rfl⟩ := (more result).mp last
    exact ⟨⟨holds, alsoHolds⟩, rfl⟩
  · rintro ⟨⟨holds, alsoHolds⟩, rfl⟩
    exact ⟨value, yields.eq_ok holds, more.eq_ok alsoHolds⟩

theorem mapM {read : α → Except ε β} {Accepted : α → Prop} {meaning : α → β} {items : List α}
    (each : ∀ item ∈ items, (read item).Yields (Accepted item) (meaning item)) :
    (items.mapM read).Yields (∀ item ∈ items, Accepted item) (items.map meaning) := by
  induction items with
  | nil => exact .ok (by simp)
  | cons item rest ih =>
    have later := ih fun item member => each item (List.mem_cons_of_mem _ member)
    have both : (do return (← read item) :: (← rest.mapM read)).Yields _ (meaning item :: rest.map meaning) :=
      (each item List.mem_cons_self).bind (later.bind (.ok trivial))
    intro result
    rw [List.mapM_cons, both result, and_true, List.forall_mem_cons, List.map_cons]

end Yields

end Except
