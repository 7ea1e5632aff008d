import Relink.Proofs.Pass.Run
import Relink.Proofs.Relocation

/-! A second pass after one in which nothing failed. It renames nothing, unless a renamed device is declared under
its new name too and the rules have another name for it. -/

namespace Relink

namespace Bench

variable {declared : Declared} {start now : Bench} {renames : Plan} {device newName next : String}
variable {record : Device}

theorem Device.not_unambiguous_iff :
    ¬record.Unambiguous declared ↔
      ∃ byDriver byAddress, record.nameByDriver? declared = some byDriver ∧
        record.nameByAddress? declared = some byAddress ∧ byDriver ≠ byAddress := by
  simp [Device.Unambiguous]

/-- After all the planned renames a device has a new name to get only if it is declared under the one it got, and
the rules have two for it. -/
theorem exists_target?_relocated (valid : Table.Relocated start.devices now.devices renames)
    (whole : ∀ device, renames.get? device = start.target? declared device) :
    (∃ next, now.target? declared newName = some next) ↔
      ∃ device record, renames.get? device = some newName ∧ now.devices.get? newName = some record ∧
        declared.isPhysical newName = true ∧ Composite.isMember declared.composites newName = false ∧
        ¬record.Unambiguous declared := by
  constructor
  · rintro ⟨next, target⟩
    obtain ⟨physical, single, record, found, _, again⟩ := target?_eq_some_iff.mp target
    rcases valid.only newName record found with ⟨unmoved, origin⟩ | ⟨device, moved, origin⟩
    · -- A device that stayed would have had its target before.
      have before : start.target? declared newName = some next := by
        rw [← target]
        exact target?_congr (origin.trans found.symm)
      rw [whole, before] at unmoved
      cases unmoved
    · obtain ⟨_, _, other, same, _, first⟩ := target?_eq_some_iff.mp ((whole device).symm.trans moved)
      obtain rfl : record = other := Option.some.inj (origin.symm.trans same)
      exact ⟨device, record, moved, found, physical, single,
        Device.not_unambiguous_iff.mpr ((Plan.exists_preferred_again first).mp ⟨next, again⟩)⟩
  · rintro ⟨device, record, moved, found, physical, single, ambiguous⟩
    obtain ⟨other, origin, there⟩ := valid.carried device newName moved
    obtain rfl : record = other := Option.some.inj (found.symm.trans there)
    obtain ⟨_, _, other, same, down, first⟩ := target?_eq_some_iff.mp ((whole device).symm.trans moved)
    obtain rfl : record = other := Option.some.inj (origin.symm.trans same)
    obtain ⟨next, again⟩ := (Plan.exists_preferred_again first).mpr (Device.not_unambiguous_iff.mp ambiguous)
    exact ⟨next, target?_eq_some_iff.mpr ⟨physical, single, record, found, down, again⟩⟩

end Bench

namespace Pass

variable {declared : Declared} {options : Options} {bench between : Bench} {report : Report} {device : String}

/-- The renames that a pass without failures reports are those that were planned at its beginning, and they are all
that it did to the devices. -/
theorem relocated_of_clean (finished : (begin options).run (fun _ => .ok declared) bench = (.ok report, between))
    (clean : report.isClean = true) :
    Table.Relocated bench.devices between.devices report.renames ∧
      ∀ device, report.renames.get? device = bench.target? declared device := by
  obtain ⟨_, reported, reached⟩ := run_begin_eq_ok_iff.mp finished
  let opened := bench.replay (openingCalls options bench)
  let plan := Plan.ofInterfaces declared bench.inventory bench.devices.names
  have start : opened.devices = bench.devices := Bench.replay_devices_of_no_rename openingCalls_spare
  have renames : report.renames = .ofList (opened.moves plan.calls) := by
    rw [← reported, completeReport_of_ok, Report.renames_noting rfl, moves_completeCalls]
    rfl
  have devices : between.devices = (opened.replay plan.calls).devices := by
    rw [← reached, devices_completeCalls]
    rfl
  have quiet : opened.troubles plan.calls = [] := by
    have failures : bench.troubles (completeCalls options (.ok declared) bench) = [] := by
      rw [Report.isClean, List.isEmpty_iff, ← reported, completeReport_of_ok] at clean
      simpa [Report.noting] using clean
    rw [completeCalls, Bench.troubles_append, Bench.troubles_append, Bench.troubles_append] at failures
    simp only [List.append_eq_nil_iff] at failures
    exact failures.2.1.1
  refine ⟨?_, fun device => ?_⟩
  · rw [devices, renames, ← start]
    refine Bench.relocated_plan fun entry member => ?_
    rw [start]
    exact Plan.present_of_mem_entries member
  · rw [renames, Bench.get?_moves_of_untroubled quiet]
    exact Bench.get?_plan declared bench device

/-- A pass after one without failures reaches its end too. It calls for no rename and leaves the devices as they are
exactly if no device that was renamed is declared, as a physical link outside all composites, under the name it got,
while the rules have one name for its driver and another one for its address. -/
theorem second_run_quiet_iff (finished : (begin options).run (fun _ => .ok declared) bench = (.ok report, between))
    (clean : report.isClean = true) :
    ∃ second after, (begin options).run (fun _ => .ok declared) between = (.ok second, after) ∧
      (((∀ device newName, .rename device newName ∉ issued options (.ok declared) between) ∧
          after.devices = between.devices) ↔
        ¬∃ device newName record, report.renames.get? device = some newName ∧
          between.devices.get? newName = some record ∧
          (newName ≠ rendererKey ∧ ∃ rule ∈ declared.rules, rule.id = newName) ∧
          (∀ composite ∈ declared.composites, newName ∉ composite.members.names) ∧
          ∃ byDriver byAddress, record.nameByDriver? declared = some byDriver ∧
            record.nameByAddress? declared = some byAddress ∧ byDriver ≠ byAddress) := by
  obtain ⟨relocated, whole⟩ := relocated_of_clean finished clean
  obtain ⟨⟨generated, listed, settles⟩, _, reached⟩ := run_begin_eq_ok_iff.mp finished
  have again : (begin options).run (fun _ => .ok declared) between =
      (.ok (completeReport options (.ok declared) between),
        between.replay (completeCalls options (.ok declared) between)) := by
    refine run_begin_eq_ok_iff.mpr ⟨?_, rfl, rfl⟩
    rw [← reached]
    simpa using ⟨generated, listed, settles⟩
  have issuedAgain := issued_of_ok again
  refine ⟨_, _, again, ?_⟩
  simp only [← Declared.isPhysical_iff, ← Composite.isMember_eq_false_iff, ← Bench.Device.not_unambiguous_iff]
  constructor
  · rintro ⟨quiet, _⟩ ⟨device, newName, record, moved, found, physical, single, ambiguous⟩
    obtain ⟨next, target⟩ := (Bench.exists_target?_relocated relocated whole).mpr
      ⟨device, record, moved, found, physical, single, ambiguous⟩
    exact quiet newName next (issuedAgain ▸ rename_mem_completeCalls_iff.mpr target)
  · intro settled
    have quiet (device newName : String) : .rename device newName ∉ completeCalls options (.ok declared) between := by
      intro member
      have target := rename_mem_completeCalls_iff.mp member
      obtain ⟨source, record, rest⟩ := (Bench.exists_target?_relocated relocated whole).mp ⟨newName, target⟩
      exact settled ⟨source, device, record, rest⟩
    exact ⟨issuedAgain.symm ▸ quiet, Bench.replay_devices_of_no_rename quiet⟩

/-- A pass over the two cards is followed by a quiet one, though the second card got a name that is declared. -/
theorem second_run_quiet_iff_cards :
    ∃ report between, (begin {}).run (fun _ => .ok Bench.cards.1) Bench.cards.2 = (.ok report, between) ∧
      report.isClean = true ∧ report.renames.get? "eth1" = some "eth0" ∧
      ∃ second after, (begin {}).run (fun _ => .ok Bench.cards.1) between = (.ok second, after) ∧
        after.devices = between.devices := by
  let report := completeReport {} (.ok Bench.cards.1) Bench.cards.2
  let between := Bench.cards.2.replay (completeCalls {} (.ok Bench.cards.1) Bench.cards.2)
  have finished : (begin {}).run (fun _ => .ok Bench.cards.1) Bench.cards.2 = (.ok report, between) :=
    run_begin_eq_ok_iff.mpr ⟨by decide, rfl, rfl⟩
  have clean : report.isClean = true := by decide
  obtain ⟨second, after, again, quiet⟩ := second_run_quiet_iff finished clean
  refine ⟨report, between, finished, clean, by decide, second, after, again, (quiet.mpr ?_).2⟩
  rintro ⟨device, newName, record, _, found, _, _, byDriver, byAddress, _, named, _⟩
  have nowhere : ∀ entry ∈ between.devices.entries, entry.2.address = none := by decide
  rw [Bench.Device.nameByAddress?, nowhere _ (between.devices.get?_eq_some_iff.mp found)] at named
  cases named

/-- One device under two rules. The first pass gives it the name that goes with its address; that name is declared,
so the second pass gives it the one that goes with its driver. -/
def contested : Declared × Bench :=
  (⟨[⟨"eth0", some "lan0", some ⟨some "e1000", none⟩⟩,
      ⟨"wan0", some "wan0", some ⟨none, some "00:11:22:33:44:55"⟩⟩], []⟩,
    { devices := Table.ofList
        [("eth0", ⟨some "down", some "e1000", (Link.Mac.parse "00:11:22:33:44:55").toOption⟩)] })

theorem second_run_renames_contested :
    ∃ report between second after,
      (begin {}).run (fun _ => .ok contested.1) contested.2 = (.ok report, between) ∧ report.isClean = true ∧
        (begin {}).run (fun _ => .ok contested.1) between = (.ok second, after) ∧
        .rename "wan0" "lan0" ∈ issued {} (.ok contested.1) between ∧ after.devices.names ≠ between.devices.names :=
  ⟨_, _, _, _, rfl, by decide, rfl, by decide, by decide⟩

end Pass

end Relink
