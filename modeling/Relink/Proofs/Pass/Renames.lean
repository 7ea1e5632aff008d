import Relink.Proofs.Pass.Course
import Relink.Proofs.Relocation

/-! What the rename phase makes of a host: the planned renames that succeed amount to one substitution of names,
and those that do not are reported. -/

namespace Relink

namespace Report

variable {bench : Bench} {report : Report} {plan : Plan}

/-- Each device of a plan is renamed or reported, and none is both. -/
theorem renamed_or_reported (unrenamed : report.renames = ∅) (unreported : report.failuresIn .rename = []) :
    ((report.noting bench plan.calls).renames.names ++
      ((report.noting bench plan.calls).failuresIn .rename).map (·.item)).Perm plan.names := by
  have parted := bench.moved_or_troubled plan
  rw [failuresIn_noting_calls, unreported, List.nil_append]
  refine List.Perm.trans (List.Perm.append_right _ ?_) parted
  -- Both list the devices that moved, and neither lists one twice.
  have once : ((bench.moves plan.calls).map Prod.fst).Nodup :=
    (List.nodup_append.mp (parted.nodup_iff.mpr plan.names_nodup)).1
  refine (List.perm_ext_iff_of_nodup (Table.names_nodup _) once).mpr fun device => ?_
  rw [renames_noting unrenamed]
  exact Table.mem_names_ofList

end Report

namespace Course

variable {course : Course} {load : Bench → Except Failure Declared} {declared : Declared}

/-- After the rename phase the devices are those before it with the reported renames put in, all of them at once,
whichever renames failed. Each planned device has been called for once, in the order of the names, and is either
renamed as planned or reported. -/
theorem renames_substituted (reached : course.Reached) (here : course.pass.phase = .rename)
    (loaded : load course.bench = .ok declared) :
    let planned := Plan.ofInterfaces declared course.bench.inventory course.pass.report.devices
    let after := course.next (.step load)
    after.bench.calls = course.bench.calls ++ (planned.entries.map fun entry => .rename entry.1 entry.2) ∧
      planned.names.Pairwise (· < ·) ∧
      Table.Relocated course.bench.devices after.bench.devices after.pass.report.renames ∧
      (∀ device newName, after.pass.report.renames.get? device = some newName →
        planned.get? device = some newName) ∧
      (after.pass.report.renames.names ++ (after.pass.report.failuresIn .rename).map (·.item)).Perm
        planned.names := by
  intro planned after
  obtain ⟨unrenamed, unreported⟩ := reached.sound.unrenamed (by rw [here]; decide)
  have calls : course.pass.nextCalls (load course.bench) course.bench = planned.calls := by
    rw [Pass.nextCalls, here, loaded]
    rfl
  have stepped : course.pass.step load course.bench = _ := Pass.step_noting (.inr ⟨here, declared, loaded⟩)
  have bench : after.bench = course.bench.replay planned.calls :=
    (congrArg (·.2.2) stepped).trans (by rw [calls])
  have report : after.pass.report = course.pass.report.noting course.bench planned.calls :=
    (congrArg (·.2.1.report) stepped).trans (by rw [calls])
  have renames : after.pass.report.renames = .ofList (course.bench.moves planned.calls) := by
    rw [report, Report.renames_noting unrenamed]
  refine ⟨?_, planned.names_ordered, ?_, ?_, ?_⟩
  · rw [bench, Bench.replay_calls]
    rfl
  · rw [bench, renames]
    exact Bench.relocated_plan fun _ => Plan.present_of_mem_entries
  · intro device newName renamed
    rw [renames] at renamed
    exact Bench.get?_plan_of_moved renamed
  · rw [report]
    exact Report.renamed_or_reported unrenamed unreported

theorem renames_substituted_pluggedIn :
    pluggedIn.pass.phase = .rename ∧
      Table.Relocated pluggedIn.bench.devices (pluggedIn.next (.step fun _ => .ok Bench.cards.1)).bench.devices
        (Table.ofList [("eth0", "lan0"), ("eth1", "eth0")]) := by
  have here : pluggedIn.pass.phase = .rename := by decide
  have reached : pluggedIn.Reached := (Reached.begin {} Bench.cards.2).along _
  obtain ⟨_, _, relocated, _, _⟩ :=
    @renames_substituted pluggedIn (fun _ => .ok Bench.cards.1) Bench.cards.1 reached here rfl
  exact ⟨here, relocated⟩

end Course

end Relink
