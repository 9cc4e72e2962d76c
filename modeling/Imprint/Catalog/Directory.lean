import Imprint.Catalog
import Imprint.Manifest.Basic
import Imprint.Storage.Disk

/-!
# Templates on disk

Manifests below a directory are added to a catalog, directory by directory and in order of their
names.  One that cannot be read is left out and does not keep the others from being added.
-/

namespace Imprint

open Storage (Disk Path.join Path.parent? Path.extension?)

/-- The directory of templates that belongs to a project. -/
def projectTemplates : String := ".buildstamp/templates"

/-- Reads a file beside a manifest in the given directory. -/
def readBeside (disk : Disk) (directory : String) : Manifest.FileReader := fun file =>
  let path := Storage.Path.join directory file
  (disk.readText path).mapError fun cause => (path, cause)

/-- The paths of the manifests below a directory, in the order in which they are added. -/
def manifestPaths (disk : Disk) (directory : String) : List String :=
  match disk.placeOf? directory with
  | none => []
  | some place =>
      (disk.filesBelow place).filterMap fun names =>
        if names.getLast?.any fun name => Storage.Path.extension? name == some "toml" then
          some (names.foldl Storage.Path.join directory)
        else none

/-- The template of the manifest at a path, if it can be read. -/
def loadManifest? (disk : Disk) (path : String) : Option Template := do
  let text ← (disk.readText path).toOption
  (Manifest.parse ((Storage.Path.parent? path).map (readBeside disk)) text).toOption

/-- The templates of the manifests below a directory that can be read. -/
def loadTemplates (disk : Disk) (directory : String) : List Template :=
  (manifestPaths disk directory).filterMap (loadManifest? disk)

namespace Catalog

/-- Adds the templates below a directory and counts them. -/
def loadDirectory (catalog : Catalog) (disk : Disk) (directory : String) :
    Except Error (Nat × Catalog) :=
  if disk.isDirectory directory then
    let templates := loadTemplates disk directory
    .ok (templates.length, catalog.insertAll templates)
  else .error (.invalidTemplate (.directoryMissing directory))

/-- The directories where templates are looked for: the one that is asked for, the one that the
environment names, and the one that belongs to the project. -/
def directories (explicit environment : Option String) : List String :=
  explicit.toList ++ (environment.filter fun path => !Text.isBlankText path).toList ++
    [projectTemplates]

/-- The built-in catalog with the templates of the first directory that is there.  A directory that
is asked for must be there. -/
def discover (disk : Disk) (explicit environment : Option String) : Except Error Catalog :=
  match explicit.filter fun directory => !disk.isDirectory directory with
  | some missing => .error (.templatesMissing missing)
  | none =>
      match (directories explicit environment).find? disk.isDirectory with
      | some directory => (builtin.loadDirectory disk directory).map Prod.snd
      | none => .ok builtin

end Catalog

end Imprint
