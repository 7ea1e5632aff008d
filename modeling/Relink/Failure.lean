import Relink.SystemError

namespace Relink

/-- Why applying a configuration failed. -/
inductive Failure where
  | shellStart (command : String) (cause : SystemError)
  | shellExit (command : String) (exitCode : Int) (output : String)
  | generation (exitCode : Int)
  | configuration (problem : String)
  | deviceState (device : String) (cause : SystemError)
  | enumeration (cause : SystemError)
  | rename (device newName reason : String)
  | settle (reason : String)
  | file (path : String) (cause : SystemError)
  deriving DecidableEq

namespace Failure

def message : Failure → String
  | .shellStart command cause =>
    "Failed to execute shell command '" ++ command ++ "': " ++ cause.message
  | .shellExit command exitCode output =>
    "Shell command failed: '" ++ command ++ "' (exit code " ++ toString exitCode ++ "): " ++ output
  | .generation exitCode => "Configuration generator failed with exit code " ++ toString exitCode
  | .configuration problem => "Configuration error: " ++ problem
  | .deviceState device cause => "Cannot determine operstate of " ++ device ++ ": " ++ cause.message
  | .enumeration cause => "Failed to enumerate network devices: " ++ cause.message
  | .rename device newName reason =>
    "Failed to rename " ++ device ++ " to " ++ newName ++ ": " ++ reason
  | .settle reason => "Device settle failed: " ++ reason
  | .file path cause => "IO error on " ++ path ++ ": " ++ cause.message

/-- The exit status that reports a configuration that could not be generated. -/
def generationStatus : Nat := 78

def exitStatus : Failure → Nat
  | .generation _ => generationStatus
  | _ => 1

end Failure

end Relink
