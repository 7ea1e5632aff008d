import Relink.Text.Utf8

namespace Relink.Yaml

/-- The smallest pieces of a document stream. -/
inductive Token where
  | versionDirective (major minor : Nat)
  | tagDirective (handle : String) (expansion : Text.Octets)
  | documentStart
  | documentEnd
  | streamEnd
  | blockSequenceStart
  | blockMappingStart
  | blockEnd
  | flowSequenceStart
  | flowSequenceEnd
  | flowMappingStart
  | flowMappingEnd
  | blockEntry
  | flowEntry
  | key
  | value
  | alias (name : String)
  | anchor (name : String)
  | tag (handle : String) (suffix : Text.Octets)
  | scalar (text : String) (plain : Bool)
  deriving DecidableEq

end Relink.Yaml
