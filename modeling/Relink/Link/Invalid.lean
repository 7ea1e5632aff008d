namespace Relink.Link

/-- Why a text is not a value of the link layer. -/
inductive Invalid where
  | macAddress (text : String)
  | operState (text : String)
  deriving DecidableEq

def Invalid.message : Invalid → String
  | .macAddress text => "invalid MAC address format: " ++ text
  | .operState text => "invalid operational state: " ++ text

end Relink.Link
