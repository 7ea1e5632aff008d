namespace Relink

/-- A service that brings links up. -/
inductive Backend where
  | networkd
  | networkManager
  deriving DecidableEq

namespace Backend

def name : Backend → String
  | .networkd => "networkd"
  | .networkManager => "NetworkManager"

/-- The unit that runs a backend. -/
def service : Backend → String
  | .networkd => "systemd-networkd.service"
  | .networkManager => "NetworkManager.service"

def ofName? (text : String) : Option Backend :=
  [networkd, networkManager].find? (·.name == text)

end Backend

/-- What is done to the unit of a backend. -/
inductive Action where
  | start
  | stop
  deriving DecidableEq

namespace Action

def verb : Action → String
  | .start => "start"
  | .stop => "stop"

def ofVerb? (text : String) : Option Action :=
  [start, stop].find? (·.verb == text)

end Action

end Relink
