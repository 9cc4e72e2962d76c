import Imprint.Storage.Backend
import Imprint.Storage.Path

/-!
# Storage in memory

Files and directories under their components.  A file keeps the spelling of the path under which
it was written first.  Writing to some paths can be made to fail.
-/

namespace Imprint.Storage

/-- A file in memory. -/
structure StoredFile where
  path : String
  content : String
  deriving DecidableEq

/-- The components under which a file is stored. -/
def StoredFile.key (file : StoredFile) : List Component := Path.components file.path

/-- Storage in memory; files are in ascending order of their components. -/
structure Memory where
  files : List StoredFile
  directories : List (List Component)
  failing : List (List Component)
  deriving DecidableEq

namespace Memory

/-- Storage without files. -/
def empty : Memory := ⟨[], [], []⟩

/-- The content of the file with the given components. -/
def content? (memory : Memory) (key : List Component) : Option String :=
  (memory.files.find? (·.key == key)).map StoredFile.content

/-- The content of a file. -/
def read? (memory : Memory) (path : String) : Option String :=
  memory.content? (Path.components path)

/-- Whether a directory is at a path. -/
def hasDirectory (memory : Memory) (path : String) : Bool :=
  memory.directories.contains (Path.components path)

/-- Whether a file or a directory is at a path. -/
def holds (memory : Memory) (path : String) : Bool :=
  (memory.read? path).isSome || memory.hasDirectory path

/-- Storage in which a directory and those above it are there. -/
def createDirectories (path : String) (memory : Memory) : Memory :=
  let missing := (Path.prefixesOf (Path.components path)).filter fun directory =>
    !memory.directories.contains directory
  { memory with directories := memory.directories ++ missing }

/-- Files with one more, which takes the place of the one with the same components. -/
def insertFile (file : StoredFile) : List StoredFile → List StoredFile
  | [] => [file]
  | first :: rest =>
      if file.key = first.key then { first with content := file.content } :: rest
      else if Component.listLess file.key first.key then file :: first :: rest
      else first :: insertFile file rest

/-- Whether the directory that a file belongs into is there. -/
def hasParent (memory : Memory) (path : String) : Bool :=
  match Path.parent? path with
  | some parent => parent.isEmpty || memory.hasDirectory parent
  | none => true

/-- Writes a file into a directory that is there. -/
def write (path content : String) (memory : Memory) : Except Error Memory :=
  if memory.failing.contains (Path.components path) then .error (.storage path .writeRejected)
  else if !memory.hasParent path then .error (.storage path .parentMissing)
  else .ok { memory with files := insertFile ⟨path, content⟩ memory.files }

/-- Removes a file. -/
def remove (path : String) (memory : Memory) : Except Error Memory :=
  match memory.read? path with
  | some _ =>
      .ok { memory with files := memory.files.filter (·.key != Path.components path) }
  | none => .error (.storage path .fileMissing)

/-- The content of a file, or the reason why there is none. -/
def read (memory : Memory) (path : String) : Except Error String :=
  match memory.read? path with
  | some content => .ok content
  | none => .error (.storage path .fileMissing)

/-- Storage in which writing to a path fails. -/
def failWritesTo (path : String) (memory : Memory) : Memory :=
  { memory with failing := Path.components path :: memory.failing }

instance : Backend Memory where
  holds := holds
  read := read
  createDirectories path := Task.ofStep fun memory => .ok (memory.createDirectories path)
  write path content := Task.ofStep (write path content)
  remove path := Task.ofStep (remove path)

end Memory

end Imprint.Storage
