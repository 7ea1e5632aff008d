import Mathlib
import Relink.Proofs.Attempt
import Relink.Settings

/-! Which settings are accepted. Every setting has a check of its own, of which the first that fails is reported, and
what is loaded has passed them all. No check looks into the list of directories. -/

namespace Relink.Text

variable {text : String}

theorem isAllBlank_iff_trim_eq_empty : isAllBlank text = true ↔ trim text = "" := by
  have opened :
      (text.toList.dropWhile isBlank).reverse.dropWhile isBlank = [] ↔ text.toList.dropWhile isBlank = [] := by
    rw [List.dropWhile_eq_nil_iff]
    simp only [List.mem_reverse]
    rw [← List.dropWhile_eq_nil_iff, List.dropWhile_idempotent]
  rw [trim, String.ofList_eq_empty_iff, trimmed, List.reverse_eq_nil_iff, opened, List.dropWhile_eq_nil_iff, isAllBlank,
    List.all_eq_true]

end Relink.Text

namespace Relink.Settings

variable {settings : Settings} {field text : String}

/-- Settings of which each has passed its check. -/
@[mk_iff]
structure Checked (settings : Settings) : Prop where
  generator : settings.paths.generator ≠ ""
  devices : settings.paths.devices ≠ ""
  directories : settings.paths.configDirectories ≠ []
  patterns :
    ∀ text ∈ [settings.paths.networkdArtifacts, settings.paths.managerArtifacts, settings.paths.auxiliaryUnits],
      ∃ pattern, Glob.Pattern.parse text = .ok pattern
  commands :
    ∀ text ∈ [settings.commands.ip, settings.commands.udevadm, settings.commands.systemctl, settings.commands.nmcli],
      Text.trim text ≠ ""

/-- Settings that a pass can work with: no place is an empty path, no pattern faulty and no command blank. -/
structure Usable (settings : Settings) : Prop extends Checked settings where
  named : "" ∉ settings.paths.configDirectories

/-- The checks on settings, in the order in which they are made. -/
def checks (settings : Settings) : List (Except Problem Unit) := [
  demandText "paths.generator" settings.paths.generator,
  demandText "paths.sysfs_net" settings.paths.devices,
  if settings.paths.configDirectories.isEmpty then .error .noDirectory else .ok (),
  demandPattern "paths.networkd_artifacts" settings.paths.networkdArtifacts,
  demandPattern "paths.network_manager_artifacts" settings.paths.managerArtifacts,
  demandPattern "paths.wpa_units" settings.paths.auxiliaryUnits,
  demandCommand "commands.ip" settings.commands.ip,
  demandCommand "commands.udevadm" settings.commands.udevadm,
  demandCommand "commands.systemctl" settings.commands.systemctl,
  demandCommand "commands.nmcli" settings.commands.nmcli]

theorem validate_eq_forM (settings : Settings) : settings.validate = forM settings.checks id := by
  by_cases empty : settings.paths.configDirectories.isEmpty = true <;> simp [validate, checks, empty] <;> rfl

@[simp] theorem demandText_eq_ok_iff : demandText field text = .ok () ↔ text ≠ "" := by
  simp [demandText]

@[simp] theorem demandPattern_eq_ok_iff :
    demandPattern field text = .ok () ↔ ∃ pattern, Glob.Pattern.parse text = .ok pattern := by
  rw [demandPattern]
  split <;> simp_all

@[simp] theorem demandCommand_eq_ok_iff : demandCommand field text = .ok () ↔ Text.trim text ≠ "" := by
  simp [demandCommand, ← Text.isAllBlank_iff_trim_eq_empty]

theorem validate_eq_ok_iff : settings.validate = .ok () ↔ settings.Checked := by
  rw [validate_eq_forM, Except.forM_id_eq_ok_iff, checked_iff]
  simp [checks, and_assoc]

/-- The problem that is reported is that of the first check that fails. -/
theorem validate_eq_error_iff {problem : Problem} :
    settings.validate = .error problem ↔
      ∃ before after, settings.checks = before ++ .error problem :: after ∧ ∀ check ∈ before, check = .ok () := by
  rw [validate_eq_forM, Except.forM_id_eq_error_iff]

theorem checked_default : Checked {} :=
  validate_eq_ok_iff.mp rfl

/-- What is loaded is what a document makes of the defaults, and has been checked, or is the defaults themselves. -/
theorem checked_of_load {files : Files.Tree} {here : Files.Place} {path : String}
    (loaded : load files here path = .ok settings) : settings.Checked := by
  rw [load] at loaded
  split at loaded
  · rename_i text _
    split at loaded
    · rename_i given accepted
      cases loaded
      rw [ofText] at accepted
      split at accepted
      · cases accepted
      · obtain ⟨_, valid, same⟩ := Except.map_eq_ok_iff.mp accepted
        exact same ▸ validate_eq_ok_iff.mp valid
    · cases loaded
  · split at loaded
    · cases loaded
      exact checked_default
    · cases loaded

/-- If no directory is given an empty path, a pass can work with all settings that are loaded, and those it can work
with are the ones that are accepted. -/
theorem usable_of_load_and_validate (named : "" ∉ settings.paths.configDirectories) :
    (∀ files here path, load files here path = .ok settings → settings.Usable) ∧
      (settings.validate = .ok () ↔ settings.Usable) :=
  ⟨fun _ _ _ loaded => ⟨checked_of_load loaded, named⟩, fun valid => ⟨validate_eq_ok_iff.mp valid, named⟩,
    fun usable => validate_eq_ok_iff.mpr usable.toChecked⟩

section Loading

/-- A tree of files with settings alone. -/
def holding (content : String) : Files.Tree :=
  ⟨[(["relink.toml"], .file (Text.Utf8.encode content) false)]⟩

theorem load_holding {content : String} (read : (holding content).readText [] "/relink.toml" = .ok content)
    (told : (ofText "/relink.toml" content).toOption = some settings) :
    load (holding content) [] "/relink.toml" = .ok settings := by
  rw [load, read]
  cases same : ofText "/relink.toml" content with
  | error problem => simp [same, Except.toOption] at told
  | ok other => simpa [same, Except.toOption] using told

/-- Settings that give a directory and a command, and leave the rest as it is. -/
theorem usable_of_load_and_validate_holding :
    ∃ settings : Settings, "" ∉ settings.paths.configDirectories ∧
      load (holding "[paths]\nconfig_dirs = ['/a']\n[commands]\nip = 'doas ip'\n") [] "/relink.toml" = .ok settings ∧
      settings.validate = .ok () ∧ settings.Usable := by
  let settings : Settings := { paths := { configDirectories := ["/a"] }, commands := { ip := "doas ip" } }
  have loaded := @load_holding settings "[paths]\nconfig_dirs = ['/a']\n[commands]\nip = 'doas ip'\n"
    (by cbv) (by decide +kernel)
  have named : "" ∉ settings.paths.configDirectories := by decide
  obtain ⟨usable, valid⟩ := usable_of_load_and_validate named
  exact ⟨settings, named, loaded, valid.mpr (usable _ _ _ loaded), usable _ _ _ loaded⟩

/-- A directory with an empty path is loaded and accepted, though no pass can work with it. -/
theorem usable_of_load_and_validate_unnamed :
    ∃ settings : Settings, load (holding "[paths]\nconfig_dirs = ['']\n") [] "/relink.toml" = .ok settings ∧
      settings.validate = .ok () ∧ ¬settings.Usable := by
  have loaded := @load_holding { paths := { configDirectories := [""] } } "[paths]\nconfig_dirs = ['']\n"
    (by cbv) (by decide +kernel)
  exact ⟨_, loaded, validate_eq_ok_iff.mpr (checked_of_load loaded), fun usable => usable.named List.mem_cons_self⟩

end Loading

end Relink.Settings
