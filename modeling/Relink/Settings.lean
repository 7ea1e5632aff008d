import Relink.Failure
import Relink.Files.Tree
import Relink.Glob.Pattern
import Relink.Text.Blank
import Relink.Toml.Document

namespace Relink

/-- The places that a pass consults. Directories of declared configuration come with the lowest
precedence first; the last three are patterns of paths. -/
structure Settings.Paths where
  generator : String := "/lib/netplan/generate"
  devices : String := "/sys/class/net"
  configDirectories : List String := ["/lib/netplan", "/etc/netplan", "/run/netplan"]
  networkdArtifacts : String := "/run/systemd/network/*netplan-*"
  managerArtifacts : String := "/run/NetworkManager/system-connections/netplan-*"
  auxiliaryUnits : String := "/run/systemd/system/*.wants/netplan-wpa@*.service"
  deriving DecidableEq

/-- The commands of the tools that a pass runs. -/
structure Settings.Commands where
  ip : String := "/sbin/ip"
  udevadm : String := "/bin/udevadm"
  systemctl : String := "/bin/systemctl"
  nmcli : String := "/usr/bin/nmcli"
  deriving DecidableEq

/-- What the program can be told in its settings file. -/
structure Settings where
  paths : Settings.Paths := {}
  commands : Settings.Commands := {}
  deriving DecidableEq

namespace Settings

open Toml (Value Entries)

inductive Problem where
  | unreadable (path : String)
  | empty (field : String)
  | noDirectory
  | pattern (field : String) (fault : Glob.Fault)
  deriving DecidableEq

/-- The wording of a problem. Where and why a text cannot be read is not told. -/
def Problem.message : Problem → String
  | unreadable path => "Failed to parse config file " ++ path
  | empty field => field ++ " must not be empty"
  | noDirectory => "paths.config_dirs must list at least one directory"
  | pattern field fault => field ++ " is not a valid glob: " ++ fault.message

def Problem.toFailure (problem : Problem) : Failure :=
  .configuration problem.message

def readText? : Value → Option String
  | .text text => some text
  | _ => none

def readTexts? : Value → Option (List String)
  | .array items => items.mapM readText?
  | _ => none

/-- A setting: its key, and how a value changes the record that it belongs to. -/
structure Field (α : Type) where
  key : String
  take? : Value → α → Option α

/-- Reads settings from an array in the order of the fields. What lacks at the end keeps its default, and
what is too much does not count. -/
def readItems? {α : Type} : List (Field α) → List Value → α → Option α
  | field :: fields, item :: items, record => (field.take? item record).bind (readItems? fields items)
  | _, _, record => some record

/-- Reads settings from a table. Keys that are none of the fields' do not count. -/
def readTable? {α : Type} (fields : List (Field α)) (entries : Entries) (record : α) : Option α :=
  fields.foldlM (fun record field =>
    match entries.get? field.key with
    | some value => field.take? value record
    | none => some record) record

/-- Reads settings from a value. A moment counts as a table without any of the fields. -/
def readGroup? {α : Type} (fields : List (Field α)) (record : α) : Value → Option α
  | .table _ entries => readTable? fields entries record
  | .array items => readItems? fields items record
  | .tables items => readItems? fields items record
  | .moment => some record
  | _ => none

def pathFields : List (Field Paths) := [
  ⟨"generator", fun value paths => (readText? value).map ({ paths with generator := · })⟩,
  ⟨"sysfs_net", fun value paths => (readText? value).map ({ paths with devices := · })⟩,
  ⟨"config_dirs", fun value paths => (readTexts? value).map ({ paths with configDirectories := · })⟩,
  ⟨"networkd_artifacts", fun value paths =>
    (readText? value).map ({ paths with networkdArtifacts := · })⟩,
  ⟨"network_manager_artifacts", fun value paths =>
    (readText? value).map ({ paths with managerArtifacts := · })⟩,
  ⟨"wpa_units", fun value paths => (readText? value).map ({ paths with auxiliaryUnits := · })⟩]

def commandFields : List (Field Commands) := [
  ⟨"ip", fun value commands => (readText? value).map ({ commands with ip := · })⟩,
  ⟨"udevadm", fun value commands => (readText? value).map ({ commands with udevadm := · })⟩,
  ⟨"systemctl", fun value commands => (readText? value).map ({ commands with systemctl := · })⟩,
  ⟨"nmcli", fun value commands => (readText? value).map ({ commands with nmcli := · })⟩]

/-- Reads the entries of a settings document over the defaults. -/
def ofEntries? (entries : Entries) : Option Settings := do
  let paths ← ((entries.get? "paths").map (readGroup? pathFields {})).getD (some {})
  let commands ← ((entries.get? "commands").map (readGroup? commandFields {})).getD (some {})
  return ⟨paths, commands⟩

def demandText (field text : String) : Except Problem Unit :=
  if text.isEmpty then .error (.empty field) else .ok ()

def demandPattern (field text : String) : Except Problem Unit :=
  match Glob.Pattern.parse text with
  | .ok _ => .ok ()
  | .error fault => .error (.pattern field fault)

/-- Refuses a command of blanks only. -/
def demandCommand (field text : String) : Except Problem Unit :=
  if Text.isAllBlank text then .error (.empty field) else .ok ()

/-- Accepts settings that a pass can work with. -/
def validate (settings : Settings) : Except Problem Unit := do
  demandText "paths.generator" settings.paths.generator
  demandText "paths.sysfs_net" settings.paths.devices
  if settings.paths.configDirectories.isEmpty then throw .noDirectory
  demandPattern "paths.networkd_artifacts" settings.paths.networkdArtifacts
  demandPattern "paths.network_manager_artifacts" settings.paths.managerArtifacts
  demandPattern "paths.wpa_units" settings.paths.auxiliaryUnits
  demandCommand "commands.ip" settings.commands.ip
  demandCommand "commands.udevadm" settings.commands.udevadm
  demandCommand "commands.systemctl" settings.commands.systemctl
  demandCommand "commands.nmcli" settings.commands.nmcli

/-- Reads settings from the text of the file with the given path. -/
def ofText (path text : String) : Except Problem Settings :=
  match (Toml.parse? text).bind ofEntries? with
  | none => .error (.unreadable path)
  | some settings => settings.validate.map fun _ => settings

/-- Loads settings from a file; if there is none, the defaults hold. -/
def load (files : Files.Tree) (here : Files.Place) (path : String) : Except Failure Settings :=
  match files.readText here path with
  | .ok text =>
    match ofText path text with
    | .ok settings => .ok settings
    | .error problem => .error problem.toFailure
  | .error cause => if cause = .notFound then .ok {} else .error (.file path cause)

end Settings

end Relink
