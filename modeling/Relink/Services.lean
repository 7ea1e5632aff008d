import Relink.Backend

namespace Relink

/-- A choice of backends. -/
structure Services where
  networkd : Bool
  networkManager : Bool
  deriving DecidableEq

namespace Services

def none : Services := ⟨false, false⟩

def has (services : Services) : Backend → Bool
  | .networkd => services.networkd
  | .networkManager => services.networkManager

def set (services : Services) (chosen : Bool) : Backend → Services
  | .networkd => { services with networkd := chosen }
  | .networkManager => { services with networkManager := chosen }

def any (services : Services) : Bool :=
  services.networkd || services.networkManager

/-- The backends to restart: those with runtime files now, and those that had some before and must
still drop their stale state. -/
def toRestart (before after : Services) : Services where
  networkd := after.networkd || before.networkd
  networkManager := after.networkManager || before.networkManager

end Services

end Relink
