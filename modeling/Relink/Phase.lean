/-! The phases of a pass and their order. What is still to come after a phase is the rest of what was to come
before it. -/

namespace Relink

/-- The phases of a pass, in their order. -/
inductive Phase where
  | snapshotBefore
  | generate
  | decide
  | stop
  | linkRules
  | rename
  | settle
  | start
  | done
  deriving DecidableEq

namespace Phase

def toText : Phase → String
  | snapshotBefore => "snapshot-before"
  | generate => "generate"
  | decide => "decide"
  | stop => "stop"
  | linkRules => "link-rules"
  | rename => "rename"
  | settle => "settle"
  | start => "start"
  | done => "done"

/-- The phase that follows; a pass that is done stays so. -/
def next : Phase → Phase
  | snapshotBefore => generate
  | generate => decide
  | decide => stop
  | stop => linkRules
  | linkRules => rename
  | rename => settle
  | settle => start
  | start => done
  | done => done

/-- The phases that are still to be carried out, this one included. -/
def onward : Phase → List Phase
  | snapshotBefore => [snapshotBefore, generate, decide, stop, linkRules, rename, settle, start]
  | generate => [generate, decide, stop, linkRules, rename, settle, start]
  | decide => [decide, stop, linkRules, rename, settle, start]
  | stop => [stop, linkRules, rename, settle, start]
  | linkRules => [linkRules, rename, settle, start]
  | rename => [rename, settle, start]
  | settle => [settle, start]
  | start => [start]
  | done => []

def ofText? (text : String) : Option Phase :=
  (snapshotBefore.onward ++ [done]).find? (·.toText == text)

theorem onward_next (phase : Phase) : phase.next.onward = phase.onward.tail := by
  cases phase <;> rfl

end Phase

end Relink
