import Relink.Cli

namespace Relink.Main

/-- The directories whose files make up the machine, beside the one that the program is started in. -/
def directories : List String :=
  ["/etc/netapply", "/etc/netplan", "/lib/netplan", "/run/netplan", "/run/systemd", "/run/NetworkManager",
    "/sys/class/net"]

def depth : Nat := 32

/-- A file as the machine has it: one that names its interpreter may be run. -/
def fileEntry (content : ByteArray) : Files.Entry :=
  let octets := content.data.toList
  .file octets (Shell.Program.interpreter? octets).isSome

def gather : Nat → String → Files.Tree → IO Files.Tree
  | 0, _, files => return files
  | fuel + 1, path, files => do
    let real := (← IO.FS.realPath path).toString
    if real ≠ path then return files.plant [] path (.link real)
    else
      try
        let entries ← (← IO.FS.realPath path).readDir
        entries.foldlM (fun files entry => gather fuel (Files.Path.join path entry.fileName) files)
          (files.plant [] path .directory)
      catch _ =>
        try return files.plant [] path (fileEntry (← IO.FS.readBinFile path))
        catch _ => return files

/-- Writes what a run has changed below a place. -/
def keep (place : Files.Place) (old new : Files.Tree) : IO Unit := do
  for (target, entry) in new.entries do
    if place.isPrefixOf target && old.at? target ≠ some entry then
      let path := Machine.pathOf target
      match entry with
      | .directory => IO.FS.createDirAll path
      | .file content _ => IO.FS.writeBinFile path ⟨content.toArray⟩
      | _ => pure ()
  for (target, entry) in old.entries.reverse do
    if place.isPrefixOf target && (new.at? target).isNone then
      let path := Machine.pathOf target
      if entry.isDirectory then IO.FS.removeDirAll path else IO.FS.removeFile path

end Relink.Main

/-- Runs the program on a machine that has the files of this one, and keeps what it changes in the directory
that it is started in. -/
def main (arguments : List String) : IO UInt32 := do
  let here := (← IO.currentDir).toString
  let gathered ← (here :: Relink.Main.directories).foldlM (fun files path =>
    try Relink.Main.gather Relink.Main.depth path files catch _ => return files) Relink.Machine.systemFiles
  let machine : Relink.Machine := ⟨gathered, Relink.Files.Path.steps here⟩
  let conclusion := Relink.Cli.run machine arguments
  conclusion.output.forM IO.println
  conclusion.messages.forM IO.eprintln
  Relink.Main.keep machine.here machine.files conclusion.machine.files
  return conclusion.status.toUInt32
