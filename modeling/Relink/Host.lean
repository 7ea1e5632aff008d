import Relink.Backend
import Relink.Inventory.Basic

/-! What a pass needs of a host. The condition of the host is a value, so a run on it is a function of that
value. -/

namespace Relink

/-- A host whose whole condition is a value: what can be read of it, and what can be done to it.
Each deed gives its result and the condition it leaves, also when it fails. -/
class Host (σ : Type) where
  inventory : σ → Inventory
  hasArtifacts : σ → Backend → Bool
  auxiliaryUnits : σ → List String
  generate : σ → Except Failure Int × σ
  control : Backend → Action → List String → Bool → σ → Except Failure Unit × σ
  managerRunning : σ → Bool × σ
  disconnect : String → σ → Except Failure Unit × σ
  applyLinkRules : String → σ → Except Failure Unit × σ
  rename : String → String → σ → Except Failure Unit × σ
  settle : σ → Except Failure Unit × σ

end Relink
