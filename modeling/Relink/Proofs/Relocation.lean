import Relink.Proofs.Renaming

/-! Renames carried out one after the other amount to one substitution of names made all at once. That a name in
use is never taken keeps the moves apart. -/

namespace Relink.Table

variable {α : Type} {start now : Table α} {moves : Table String} {device name : String} {record : α}

/-- A table is another one with some names replaced, all of them at once: each move carries its record, the
rest stays, nothing else appears, and no two moves meet. -/
structure Relocated (start now : Table α) (moves : Table String) : Prop where
  carried : ∀ device name, moves.get? device = some name →
    ∃ record, start.get? device = some record ∧ now.get? name = some record
  kept : ∀ name record, moves.get? name = none → start.get? name = some record →
    now.get? name = some record
  only : ∀ name record, now.get? name = some record →
    (moves.get? name = none ∧ start.get? name = some record) ∨
      ∃ device, moves.get? device = some name ∧ start.get? device = some record
  apart : ∀ first second name, moves.get? first = some name → moves.get? second = some name →
    first = second
  vacated : ∀ device name record, moves.get? device = some name → start.get? name = some record →
    ∃ next, moves.get? name = some next

theorem Relocated.refl (start : Table α) : Relocated start start ∅ where
  carried device name moved := by cases moved
  kept name record unmoved found := found
  only name record found := .inl ⟨rfl, found⟩
  apart first second name moved := by cases moved
  vacated device name record moved := by cases moved

/-- The name of a device that is still to move was nobody's target: it is in use. -/
theorem Relocated.get?_ne_of_pending (valid : Relocated start now moves) (pending : moves.get? device = none)
    (found : start.get? device = some record) (other : String) : moves.get? other ≠ some device := by
  intro moved
  obtain ⟨next, gone⟩ := valid.vacated other device record moved found
  rw [pending] at gone
  cases gone

/-- A name that is free now was nobody's target: the device that had moved to it would be there. -/
theorem Relocated.get?_ne_of_free (valid : Relocated start now moves) (free : now.get? name = none) (other : String) :
    moves.get? other ≠ some name := by
  intro moved
  obtain ⟨_, _, there⟩ := valid.carried other name moved
  rw [free] at there
  cases there

/-- What stood under a name that is free now has been moved. -/
theorem Relocated.exists_move_of_free (valid : Relocated start now moves) (free : now.get? name = none)
    (origin : start.get? name = some record) : ∃ next, moves.get? name = some next := by
  cases left : moves.get? name with
  | some next => exact ⟨next, rfl⟩
  | none =>
    have there := valid.kept name record left origin
    rw [free] at there
    cases there

/-- A device that has not been moved can move to a name that is free now. -/
theorem Relocated.move (valid : Relocated start now moves) (pending : moves.get? device = none)
    (found : start.get? device = some record) (free : now.get? name = none) :
    Relocated start ((now.erase device).insert name record) (moves.insert device name) where
  carried other target moved := by
    rw [get?_insert] at moved
    split at moved
    · rename_i same
      cases moved
      exact ⟨record, same ▸ found, by simp⟩
    · obtain ⟨carried, origin, there⟩ := valid.carried other target moved
      have notDevice : target ≠ device := fun same => valid.get?_ne_of_pending pending found other (same ▸ moved)
      have notName : target ≠ name := fun same => valid.get?_ne_of_free free other (same ▸ moved)
      exact ⟨carried, origin, by simp [notDevice, notName, there]⟩
  kept other kept unmoved origin := by
    rw [get?_insert] at unmoved
    split at unmoved
    · cases unmoved
    · rename_i notDevice
      have notName : other ≠ name := by
        rintro rfl
        obtain ⟨next, gone⟩ := valid.exists_move_of_free free origin
        rw [unmoved] at gone
        cases gone
      simp [notDevice, notName, valid.kept other kept unmoved origin]
  only other present there := by
    rw [get?_insert] at there
    split at there
    · rename_i same
      cases there
      exact .inr ⟨device, by simp [same], found⟩
    · rw [get?_erase] at there
      split at there
      · cases there
      · rename_i notDevice
        rcases valid.only other present there with ⟨unmoved, origin⟩ | ⟨source, moved, origin⟩
        · exact .inl ⟨by simp [notDevice, unmoved], origin⟩
        · have notSource : source ≠ device := by
            rintro rfl
            rw [pending] at moved
            cases moved
          exact .inr ⟨source, by simp [notSource, moved], origin⟩
  apart first second target movedFirst movedSecond := by
    rw [get?_insert] at movedFirst movedSecond
    split at movedFirst <;> split at movedSecond
    · simp [*]
    · cases movedFirst
      exact absurd movedSecond (valid.get?_ne_of_free free second)
    · cases movedSecond
      exact absurd movedFirst (valid.get?_ne_of_free free first)
    · exact valid.apart first second target movedFirst movedSecond
  vacated other target present moved origin := by
    rw [get?_insert] at moved ⊢
    split
    · exact ⟨name, rfl⟩
    · split at moved
      · cases moved
        exact valid.exists_move_of_free free origin
      · exact valid.vacated other target present moved origin

end Relink.Table

namespace Relink.Bench

open Table (Relocated)

variable {bench : Bench} {start : Table Device} {done : Plan} {entries : List (String × String)}

/-- Renames of different devices, none of which has been moved before, keep the whole a substitution. -/
theorem relocated_replay (valid : Relocated start bench.devices done)
    (distinct : (entries.map Prod.fst).Nodup)
    (pending : ∀ entry ∈ entries, done.get? entry.1 = none ∧ ∃ record, start.get? entry.1 = some record) :
    Relocated start (bench.replay (entries.map fun entry => .rename entry.1 entry.2)).devices
      (done.insertAll (bench.moves (entries.map fun entry => .rename entry.1 entry.2))) := by
  induction entries generalizing bench done with
  | nil => exact valid
  | cons entry rest ih =>
    obtain ⟨fresh, others⟩ := List.nodup_cons.mp distinct
    rw [List.map_cons, replay_cons, moves, Table.insertAll_append]
    rcases bench.perform_rename_cases entry.1 entry.2 with ⟨unmoved, same⟩ | ⟨record, moved, here, free, changed⟩
    · rw [unmoved]
      refine ih (same ▸ valid) others fun other member => ?_
      exact pending other (List.mem_cons_of_mem entry member)
    · obtain ⟨unmoved, origin, found⟩ := pending entry List.mem_cons_self
      have there := valid.kept entry.1 origin unmoved found
      obtain rfl : origin = record := Option.some.inj (there.symm.trans here)
      rw [moved]
      refine ih ?_ others fun other member => ?_
      · rw [changed]
        exact valid.move unmoved found free
      · have differs : other.1 ≠ entry.1 := fun same => fresh (same ▸ List.mem_map_of_mem member)
        obtain ⟨left, present⟩ := pending other (List.mem_cons_of_mem entry member)
        exact ⟨by simp [differs, left], present⟩

theorem mem_of_mem_moves {move : String × String}
    (member : move ∈ bench.moves (entries.map fun entry => .rename entry.1 entry.2)) : move ∈ entries := by
  induction entries generalizing bench with
  | nil => cases member
  | cons entry rest ih =>
    rw [List.map_cons, moves, List.mem_append] at member
    rcases member with here | later
    · rcases bench.perform_rename_cases entry.1 entry.2 with ⟨unmoved, _⟩ | ⟨record, moved, _⟩
      · simp [unmoved] at here
      · have same : move = entry := by simpa [moved] using here
        exact same ▸ List.mem_cons_self
    · exact List.mem_cons_of_mem entry (ih later)

/-- Of the renames that are called for, those that do not succeed are reported, each once. -/
theorem moves_or_troubles (bench : Bench) (entries : List (String × String)) :
    ((bench.moves (entries.map fun entry => .rename entry.1 entry.2)).map Prod.fst ++
      (bench.troubles (entries.map fun entry => .rename entry.1 entry.2)).map (·.item)).Perm
        (entries.map Prod.fst) := by
  induction entries generalizing bench with
  | nil => exact .refl _
  | cons entry rest ih =>
    have rest := ih (bench.perform (.rename entry.1 entry.2))
    rw [List.map_cons, moves, troubles]
    cases refused : bench.refusal? (.rename entry.1 entry.2) with
    | none =>
      simp only [refusal?_rename_eq_none_iff.mp refused, trouble?, refused, reported?, Option.bind_some, Option.map_none,
        Option.toList_none, Option.toList_some, List.nil_append, List.singleton_append, List.map_cons]
      exact rest.cons entry.1
    | some failure =>
      have unmoved : bench.move? (.rename entry.1 entry.2) = none := by
        rcases bench.perform_rename_cases entry.1 entry.2 with ⟨unmoved, _⟩ | ⟨record, moved, _⟩
        · exact unmoved
        · rw [refusal?_rename_eq_none_iff.mpr moved] at refused
          cases refused
      simp only [unmoved, trouble?, refused, reported?, Option.bind_some, Option.map_some, Option.toList_some,
        Option.toList_none, List.nil_append, List.singleton_append, List.map_cons]
      exact List.perm_middle.trans (rest.cons entry.1)

variable {plan : Plan} {device : String}

theorem relocated_plan (present : ∀ entry ∈ plan.entries, ∃ record, bench.devices.get? entry.1 = some record) :
    Relocated bench.devices (bench.replay plan.calls).devices (.ofList (bench.moves plan.calls)) :=
  relocated_replay (.refl bench.devices) plan.names_nodup fun entry member => ⟨rfl, present entry member⟩

theorem moved_or_troubled (bench : Bench) (plan : Plan) :
    ((bench.moves plan.calls).map Prod.fst ++ (bench.troubles plan.calls).map (·.item)).Perm plan.names :=
  bench.moves_or_troubles plan.entries

theorem get?_plan_of_moved {newName : String}
    (moved : (Table.ofList (bench.moves plan.calls)).get? device = some newName) : plan.get? device = some newName :=
  plan.get?_eq_some_iff.mpr (mem_of_mem_moves (Table.mem_of_get?_ofList moved))

/-- If no rename of a plan fails, those that succeed are the plan. -/
theorem get?_moves_of_untroubled (quiet : bench.troubles plan.calls = []) (device : String) :
    (Table.ofList (bench.moves plan.calls)).get? device = plan.get? device := by
  have all := bench.moved_or_troubled plan
  rw [quiet, List.map_nil, List.append_nil] at all
  refine Option.ext fun newName => ⟨get?_plan_of_moved, fun planned => ?_⟩
  have named : device ∈ plan.names := plan.mem_names_iff.mpr ⟨newName, planned⟩
  obtain ⟨other, moved⟩ := (Table.mem_names_iff _).mp (Table.mem_names_ofList.mpr (all.mem_iff.mpr named))
  rw [moved, ← get?_plan_of_moved moved, planned]

end Relink.Bench
