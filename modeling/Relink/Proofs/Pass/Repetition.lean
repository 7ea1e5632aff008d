import Relink.Proofs.Pass.Run

/-! Passes carried out again and again with one configuration, while states and failures change between them. A
device to which the rules give one name settles: it moves once at most. -/

namespace Relink

namespace Moves

variable {device name newName : String} {first second : List (String × String)}

/-- Where a device is after moves. -/
def follow : List (String × String) → String → String
  | [], device => device
  | move :: rest, device => follow rest (if device = move.1 then move.2 else device)

/-- The names that a device gets by moves, one after the other. -/
def hops : List (String × String) → String → List String
  | [], _ => []
  | move :: rest, device => if device = move.1 then move.2 :: hops rest move.2 else hops rest device

theorem follow_append (first second : List (String × String)) (device : String) :
    follow (first ++ second) device = follow second (follow first device) := by
  induction first generalizing device with
  | nil => rfl
  | cons move rest ih => exact ih (if device = move.1 then move.2 else device)

theorem hops_append (first second : List (String × String)) (device : String) :
    hops (first ++ second) device = hops first device ++ hops second (follow first device) := by
  induction first generalizing device with
  | nil => rfl
  | cons move rest ih =>
    by_cases moved : device = move.1
    · simp [hops, follow, moved, ih]
    · simp [hops, follow, moved, ih]

theorem follow_of_hops_nil {moves : List (String × String)} (still : hops moves device = []) :
    follow moves device = device := by
  induction moves with
  | nil => rfl
  | cons move rest ih =>
    by_cases moved : device = move.1
    · simp [hops, moved] at still
    · simp only [hops, follow, moved, if_false] at still ⊢
      exact ih still

end Moves

namespace Bench

variable {declared : Declared} {record : Device} {before now after : Bench} {device newName : String}

/-- What may happen to a bench between two passes: each device stays where it is, with its driver and its address.
All else may change. -/
def Adjusted (before after : Bench) : Prop :=
  ∀ device record, before.devices.get? device = some record →
    ∃ changed, after.devices.get? device = some changed ∧
      changed.driver = record.driver ∧ changed.address = record.address

theorem adjusted_setState (bench : Bench) (name state : String) : bench.Adjusted (bench.setState name state) := by
  intro device record found
  unfold setState
  cases named : bench.devices.get? name with
  | none => exact ⟨record, found, rfl, rfl⟩
  | some other =>
    by_cases same : device = name
    · subst same
      have same : other = record := Option.some.inj (named.symm.trans found)
      subst same
      exact ⟨{ other with state := some state }, by simp [addDevice], rfl, rfl⟩
    · exact ⟨record, by simp [addDevice, same, found], rfl, rfl⟩

/-- A device, known by its record, that some moves have left where its only name is, or have not moved. -/
structure Settling (now : Bench) (declared : Declared) (record : Device) (device : String)
    (moves : List (String × String)) : Prop where
  present : ∃ current, now.devices.get? (Moves.follow moves device) = some current ∧
    current.driver = record.driver ∧ current.address = record.address
  settled : Moves.hops moves device = [] ∨
    Moves.hops moves device = [Moves.follow moves device] ∧
      ∀ name, record.nameByDriver? declared = some name ∨ record.nameByAddress? declared = some name →
        name = Moves.follow moves device

variable {current : Device} {moves : List (String × String)} {call : Call} {calls : CallLog}

/-- An unambiguous device that gets a new name gets the only one that the rules have for it. -/
theorem Device.Unambiguous.only_name (clear : record.Unambiguous declared)
    (found : now.devices.get? device = some current) (driver : current.driver = record.driver)
    (address : current.address = record.address) (target : now.target? declared device = some newName) :
    newName ≠ device ∧
      (record.nameByDriver? declared = some newName ∨ record.nameByAddress? declared = some newName) ∧
      ∀ name, record.nameByDriver? declared = some name ∨ record.nameByAddress? declared = some name →
        name = newName := by
  obtain ⟨_, _, other, same, _, preferred⟩ := target?_eq_some_iff.mp target
  obtain rfl : current = other := Option.some.inj (found.symm.trans same)
  have byDriver : current.nameByDriver? declared = record.nameByDriver? declared := by
    rw [Device.nameByDriver?, Device.nameByDriver?, driver]
  have byAddress : current.nameByAddress? declared = record.nameByAddress? declared := by
    rw [Device.nameByAddress?, Device.nameByAddress?, address]
  rw [byDriver, byAddress] at preferred
  obtain ⟨differs, given⟩ := Plan.preferred_eq_some_iff.mp preferred
  rcases given with named | ⟨none | named, chosen⟩
  · refine ⟨differs, .inr named, ?_⟩
    rintro name (other | other)
    · exact clear name newName other named
    · exact Option.some.inj (other.symm.trans named)
  · refine ⟨differs, .inl chosen, ?_⟩
    rintro name (other | other)
    · exact Option.some.inj (other.symm.trans chosen)
    · rw [none] at other
      cases other
  · exact absurd (clear newName device chosen named) differs

theorem Settling.perform (settling : now.Settling declared record device moves)
    (clear : record.Unambiguous declared)
    (timely : ∀ device newName, call = .rename device newName → now.target? declared device = some newName) :
    (now.perform call).Settling declared record device (moves ++ (now.move? call).toList) := by
  obtain ⟨current, present, driver, address⟩ := settling.present
  rcases now.perform_cases call with ⟨unmoved, same⟩ | ⟨other, newName, mover, rfl, moved, found, free, changed⟩
  · rw [unmoved, Option.toList_none, List.append_nil]
    exact ⟨⟨current, same ▸ present, driver, address⟩, settling.settled⟩
  · rw [moved, Option.toList_some]
    by_cases ours : Moves.follow moves device = other
    · subst ours
      have arrived : Moves.follow (moves ++ [(Moves.follow moves device, newName)]) device = newName := by
        simp [Moves.follow_append, Moves.follow]
      obtain ⟨differs, given, only⟩ := clear.only_name present driver address (timely _ newName rfl)
      have carried : current = mover := Option.some.inj (present.symm.trans found)
      refine ⟨⟨current, by simp [arrived, changed, carried], driver, address⟩, .inr ⟨?_, by rwa [arrived]⟩⟩
      rcases settling.settled with still | ⟨_, once⟩
      · simp [Moves.hops_append, still, Moves.hops, arrived]
      · exact absurd (once newName given) differs
    · have stayed : Moves.follow (moves ++ [(other, newName)]) device = Moves.follow moves device := by
        simp [Moves.follow_append, Moves.follow, ours]
      have unhopped : Moves.hops (moves ++ [(other, newName)]) device = Moves.hops moves device := by
        simp [Moves.hops_append, Moves.hops, ours]
      have apart : Moves.follow moves device ≠ newName := by
        intro same
        rw [← same, present] at free
        cases free
      refine ⟨⟨current, ?_, driver, address⟩, ?_⟩
      · rw [stayed, changed]
        simp [ours, apart, present]
      · rw [stayed, unhopped]
        exact settling.settled

theorem Settling.replay (settling : now.Settling declared record device moves)
    (clear : record.Unambiguous declared) (timely : now.Timely declared calls) :
    (now.replay calls).Settling declared record device (moves ++ now.moves calls) := by
  induction calls generalizing now moves with
  | nil => simpa [Bench.moves] using settling
  | cons call rest ih =>
    rw [Bench.moves, ← List.append_assoc]
    exact ih (settling.perform clear timely.1) timely.2

theorem Settling.adjust (settling : now.Settling declared record device moves) (kept : now.Adjusted after) :
    after.Settling declared record device moves := by
  obtain ⟨current, present, driver, address⟩ := settling.present
  obtain ⟨changed, there, sameDriver, sameAddress⟩ := kept _ current present
  exact ⟨⟨changed, there, sameDriver.trans driver, sameAddress.trans address⟩, settling.settled⟩

end Bench

/-- Passes with one configuration on a bench, one after the other, and what is adjusted between them: the renames
that succeeded, and the bench that they left. A pass may also fail to load its configuration. -/
inductive Passes (declared : Declared) (start : Bench) : List (String × String) → Bench → Prop where
  | begin : Passes declared start [] start
  | adjust {moves : List (String × String)} {before after : Bench} (earlier : Passes declared start moves before)
      (kept : before.Adjusted after) : Passes declared start moves after
  | pass {moves : List (String × String)} {before : Bench} (earlier : Passes declared start moves before)
      (options : Options) (loaded : Except Failure Declared)
      (fits : ∀ other, loaded = .ok other → other = declared) :
      Passes declared start (moves ++ before.moves (Pass.issued options loaded before))
        ((Pass.begin options).run (fun _ => loaded) before).2

variable {declared : Declared} {start now : Bench} {moves : List (String × String)} {device : String}
variable {record : Bench.Device}

theorem Passes.settling (passes : Passes declared start moves now) (clear : record.Unambiguous declared)
    (found : start.devices.get? device = some record) : now.Settling declared record device moves := by
  induction passes with
  | begin => exact ⟨⟨record, found, rfl, rfl⟩, .inl rfl⟩
  | adjust _ kept ih => exact ih.adjust kept
  | pass _ options loaded fits ih =>
    obtain ⟨replayed, timely⟩ := Pass.run_issued options _ fits
    rw [replayed]
    exact ih.replay clear timely

/-- Whatever the passes come to, a device to which the rules do not give two names is where it was and has not been
renamed, or it has been renamed once and is under that name. -/
theorem Passes.renamed_at_most_once (passes : Passes declared start moves now)
    (found : start.devices.get? device = some record) (clear : record.Unambiguous declared) :
    ∃ name final, now.devices.get? name = some final ∧ final.driver = record.driver ∧
      final.address = record.address ∧
      (Moves.hops moves device = [] ∧ name = device ∨ Moves.hops moves device = [name]) := by
  have settling := passes.settling clear found
  obtain ⟨final, present, driver, address⟩ := settling.present
  refine ⟨Moves.follow moves device, final, present, driver, address, ?_⟩
  rcases settling.settled with still | ⟨once, _⟩
  · exact .inl ⟨still, Moves.follow_of_hops_nil still⟩
  · exact .inr once

theorem Passes.renamed_at_most_once_cards :
    ∃ now, Passes Bench.cards.1 (Bench.cards.2.setState "eth1" "up") [("eth0", "lan0"), ("eth1", "eth0")] now ∧
      ∃ name final, now.devices.get? name = some final ∧ final.driver = some "r8169" ∧ final.address = none ∧
        (Moves.hops [("eth0", "lan0"), ("eth1", "eth0")] "eth1" = [] ∧ name = "eth1" ∨
          Moves.hops [("eth0", "lan0"), ("eth1", "eth0")] "eth1" = [name]) := by
  have fits (other : Declared) (same : (.ok Bench.cards.1 : Except Failure Declared) = .ok other) :
      other = Bench.cards.1 := (Except.ok.inj same).symm
  have passes : Passes Bench.cards.1 (Bench.cards.2.setState "eth1" "up") [("eth0", "lan0"), ("eth1", "eth0")] _ :=
    .pass (.adjust (.pass .begin {} (.ok Bench.cards.1) fits) (Bench.adjusted_setState _ "eth1" "down")) {}
      (.ok Bench.cards.1) fits
  have found : (Bench.cards.2.setState "eth1" "up").devices.get? "eth1" = some ⟨some "up", some "r8169", none⟩ := by
    decide
  have clear : Bench.Device.Unambiguous Bench.cards.1 ⟨some "up", some "r8169", none⟩ := by
    intro byDriver byAddress _ named
    cases named
  exact ⟨_, passes, passes.renamed_at_most_once found clear⟩

end Relink
