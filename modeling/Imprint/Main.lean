import Imprint.Program.Footprint
import Std.Time.DateTime.Timestamp

/-!
# The command line

The outer layer of the program.  It reads the environment and the files that a run looks at, runs
the program on them, and carries out on disk what the run has changed.
-/

open Imprint
open Imprint.Storage (Disk)

namespace Imprint.Main

/-- The names of an absolute path. -/
def placeOf (path : String) : Storage.Place := (path.splitOn "/").filter fun name => !name.isEmpty

/-- The path of a place. -/
def pathOf (place : Storage.Place) : String := "/" ++ "/".intercalate place

/-- The variables of the process; on systems that do not list them there are none. -/
def readEnvironment : IO Environment := do
  match ← (IO.FS.readBinFile "/proc/self/environ").toBaseIO with
  | .error _ => return []
  | .ok bytes =>
      let text := (String.fromUTF8? bytes).getD ""
      return (text.splitOn "\x00").filterMap fun entry =>
        match entry.splitOn "=" with
        | name :: value :: more => some (name, "=".intercalate (value :: more))
        | _ => none

/-- The tree with what is at one path. -/
def captureEntry (disk : Disk) (path : String) : IO Disk := do
  let file := (← IO.currentDir) / path
  if ← file.isDir then return (Disk.makeDirectories (Disk.depthOf path) path disk).2
  match ← (IO.FS.readFile file).toBaseIO with
  | .ok content => return disk.plant path content
  | .error _ =>
      if ← file.pathExists then
        match disk.resolve path with
        | .ok (.child parent name _) => return disk.put (parent ++ [name]) (.file none)
        | _ => return disk
      else return disk

/-- The tree with what is at one path and at those of the directories above it. -/
def capture (disk : Disk) (path : String) : IO Disk :=
  (Storage.Path.lineage path).foldlM captureEntry disk

/-- The tree with a directory and what it holds. -/
def captureFolder (disk : Disk) (path : String) : IO Disk := do
  let disk ← capture disk path
  let folder := (← IO.currentDir) / path
  if ← folder.isDir then
    let names := (← folder.readDir).toList.map fun entry => entry.fileName
    names.foldlM (fun disk name => captureEntry disk (Storage.Path.join path name)) disk
  else return disk

/-- The tree with a directory and all that is below it. -/
def captureTree (disk : Disk) (path : String) : IO Disk := do
  let disk ← capture disk path
  let root := (← IO.currentDir) / path
  if ← root.isDir then
    let below := (← root.walkDir).toList.map fun file =>
      Storage.Path.join path (file.toString.drop (root.toString.length + 1)).toString
    below.foldlM captureEntry disk
  else return disk

/-- The tree with all that a run looks at. -/
def captureAll (disk : Disk) (footprint : Footprint) : IO Disk := do
  let disk ← footprint.entries.foldlM capture disk
  let disk ← footprint.folders.foldlM captureFolder disk
  footprint.trees.foldlM captureTree disk

/-- The part of the disk that a command line is concerned with. -/
def readDisk (place : Storage.Place) (environment : Environment) (arguments : List String) :
    IO Disk := do
  let disk ← captureAll (Disk.fresh place) (Footprint.ofPlace place)
  let environment := environment.provideNearest disk
  match CommandLine.read environment arguments with
  | .error _ => return disk
  | .ok invocation =>
      let explicit := invocation.options.settingsFile
      let disk ← captureAll disk (Footprint.ofSettingsFile environment explicit)
      match Settings.load disk environment explicit with
      | .error _ => return disk
      | .ok settings => captureAll disk (Footprint.ofInvocation environment settings invocation)

/-- Carries out on disk what a run has changed. -/
def commit (before after : Disk) : IO Unit := do
  for (place, _) in before.entries do
    if (after.entry? place).isNone then IO.FS.removeFile (pathOf place)
  for (place, entry) in after.entries do
    if before.entry? place != some entry then
      match entry with
      | .directory => IO.FS.createDirAll (pathOf place)
      | .file (some content) => IO.FS.writeFile (pathOf place) content
      | .file none => pure ()

end Imprint.Main

/-- Runs the program on the command line of the process. -/
def main (arguments : List String) : IO UInt32 := do
  let place := Imprint.Main.placeOf (← IO.currentDir).toString
  let environment ← Imprint.Main.readEnvironment
  let disk ← Imprint.Main.readDisk place environment arguments
  let now ← Std.Time.Timestamp.now
  let finish := Program.run {
    arguments, environment, disk
    now := Timestamp.ofSeconds now.toSecondsSinceUnixEpoch.val }
  Imprint.Main.commit disk finish.disk
  IO.print finish.output
  IO.eprint finish.errors
  return finish.exitCode.toUInt32
