import Imprint.Storage.Backend
import Imprint.Storage.Path

/-!
# Storage on disk

A tree of directories and text files with a current directory.  Paths are followed name by name:
every name but the last must be a directory, and a dot or two dots need a directory before them.
-/

namespace Imprint.Storage

/-- What can be at a place of the tree.  A file has no content here if it holds something else than
text. -/
inductive Entry where
  | directory
  | file (content : Option String)
  deriving DecidableEq

/-- The names from the root of the tree to a place. -/
abbrev Place := List String

/-- A tree of directories and files.  The root is always there and not listed. -/
structure Disk where
  entries : List (Place × Entry)
  current : Place
  deriving DecidableEq

/-- What a path leads to: a directory that is there, or a name in one, which must be a directory if
the path ends with a slash. -/
inductive Target where
  | directory (place : Place)
  | child (parent : Place) (name : String) (slash : Bool)
  deriving DecidableEq

namespace Disk

/-- The order of places: directories before their contents, siblings by name. -/
def placeLess : Place → Place → Bool
  | [], [] => false
  | [], _ :: _ => true
  | _ :: _, [] => false
  | first :: firsts, second :: seconds =>
      if first = second then placeLess firsts seconds else first < second

/-- What is at a place. -/
def entry? (disk : Disk) (place : Place) : Option Entry :=
  if place.isEmpty then some .directory else disk.entries.lookup place

/-- Entries with one more, which takes the place of the one that was there. -/
def insertEntry (place : Place) (entry : Entry) :
    List (Place × Entry) → List (Place × Entry)
  | [] => [(place, entry)]
  | first :: rest =>
      if place = first.1 then (place, entry) :: rest
      else if placeLess place first.1 then (place, entry) :: first :: rest
      else first :: insertEntry place entry rest

/-- The tree with an entry at a place. -/
def put (disk : Disk) (place : Place) (entry : Entry) : Disk :=
  { disk with entries := insertEntry place entry disk.entries }

/-- The largest number of bytes in a name. -/
def maxNameBytes : Nat := 255

/-- The largest number of bytes in a path. -/
def maxPathBytes : Nat := 4095

/-- A name of a path and where it leads from a directory. -/
def follow (disk : Disk) (place : Place) (name : String) : Except SystemFault Place :=
  if name = "." then .ok place
  else if name = ".." then .ok place.dropLast
  else if maxNameBytes < name.utf8ByteSize then .error .nameTooLong
  else
    match disk.entry? (place ++ [name]) with
    | some .directory => .ok (place ++ [name])
    | some (.file _) => .error .notDirectory
    | none => .error .noEntry

/-- Follows names from a directory; the last one need not be there. -/
def walk (disk : Disk) (slash : Bool) (place : Place) : List String → Except SystemFault Target
  | [] => .ok (.directory place)
  | [name] =>
      if name = "." then .ok (.directory place)
      else if name = ".." then .ok (.directory place.dropLast)
      else if maxNameBytes < name.utf8ByteSize then .error .nameTooLong
      else .ok (.child place name slash)
  | name :: next :: names => do
      let place ← disk.follow place name
      walk disk slash place (next :: names)

/-- What a path leads to. -/
def resolve (disk : Disk) (path : String) : Except SystemFault Target :=
  let text := path.toList
  if text.contains '\x00' then .error .invalidName
  else if text.isEmpty then .error .noEntry
  else if maxPathBytes < path.utf8ByteSize then .error .nameTooLong
  else
    let names := ((Path.splitSlash text).filter fun piece => !piece.isEmpty).map String.ofList
    disk.walk (text.getLast? == some '/') (if Path.isAbsolute path then [] else disk.current) names

/-- What is at a path. -/
def find (disk : Disk) (path : String) : Except SystemFault Entry := do
  match ← disk.resolve path with
  | .directory _ => return .directory
  | .child parent name slash =>
      match disk.entry? (parent ++ [name]) with
      | none => .error .noEntry
      | some .directory => return .directory
      | some (.file content) => if slash then .error .notDirectory else return .file content

/-- Whether something is at a path. -/
def holds (disk : Disk) (path : String) : Bool := (disk.find path).toOption.isSome

/-- Whether a directory is at a path. -/
def isDirectory (disk : Disk) (path : String) : Bool :=
  (disk.find path).toOption == some .directory

/-- Whether a file is at a path. -/
def isFile (disk : Disk) (path : String) : Bool :=
  match disk.find path with
  | .ok (.file _) => true
  | _ => false

/-- The content of a file. -/
def readText (disk : Disk) (path : String) : Except SystemFault String := do
  match ← disk.find path with
  | .directory => .error .isDirectory
  | .file none => .error .notUtf8
  | .file (some content) => return content

/-- Writes a file into a directory that is there. -/
def writeText (disk : Disk) (path content : String) : Except SystemFault Disk := do
  match ← disk.resolve path with
  | .directory _ => .error .isDirectory
  | .child parent name slash =>
      if slash then .error .isDirectory
      else
        match disk.entry? (parent ++ [name]) with
        | some .directory => .error .isDirectory
        | _ => return disk.put (parent ++ [name]) (.file (some content))

/-- Removes a file. -/
def removeText (disk : Disk) (path : String) : Except SystemFault Disk := do
  match ← disk.resolve path with
  | .directory _ => .error .isDirectory
  | .child parent name slash =>
      match disk.entry? (parent ++ [name]) with
      | none => .error .noEntry
      | some .directory => .error .isDirectory
      | some (.file _) =>
          if slash then .error .notDirectory
          else return { disk with entries := disk.entries.filter (·.1 != parent ++ [name]) }

/-- Creates a directory in one that is there. -/
def makeDirectory (disk : Disk) (path : String) : Except SystemFault Disk := do
  match ← disk.resolve path with
  | .directory _ => .error .exists
  | .child parent name _ =>
      match disk.entry? (parent ++ [name]) with
      | some _ => .error .exists
      | none => return disk.put (parent ++ [name]) .directory

/-- Creates a directory unless one is there already. -/
def ensureDirectory (disk : Disk) (path : String) : Except SystemFault Disk :=
  match disk.makeDirectory path with
  | .ok disk => .ok disk
  | .error cause => if disk.isDirectory path then .ok disk else .error cause

/-- Creates a directory and, within `depth` steps, those above it that are missing.  Directories
that have been created stay when a later one cannot be. -/
def makeDirectories : Nat → String → Disk → Except SystemFault Unit × Disk
  | 0, _, disk => (.error .noEntry, disk)
  | depth + 1, path, disk =>
      if path.isEmpty then (.ok (), disk)
      else
        let outcome := fun disk =>
          match ensureDirectory disk path with
          | .ok disk => (.ok (), disk)
          | .error cause => (.error cause, disk)
        match disk.makeDirectory path with
        | .error .noEntry =>
            match Path.parent? path with
            | none => (.error .noEntry, disk)
            | some parent =>
                match makeDirectories depth parent disk with
                | (.ok _, disk) => outcome disk
                | (.error cause, disk) => (.error cause, disk)
        | _ => outcome disk

/-- The number of directories that a path can name. -/
def depthOf (path : String) : Nat := (Path.components path).length + 1

/-- A refusal of the operating system at a path. -/
def refusal (path : String) (action : Action) (cause : SystemFault) : Error :=
  .storage path (.system action cause)

instance : Backend Disk where
  holds := holds
  read disk path := (disk.readText path).mapError (refusal path .readFile)
  createDirectories path := fun disk =>
    let (result, disk) := makeDirectories (depthOf path) path disk
    (result.mapError (refusal path .createDirectory), disk)
  write path content := Task.ofStep fun disk =>
    (disk.writeText path content).mapError (refusal path .writeFile)
  remove path := Task.ofStep fun disk =>
    (disk.removeText path).mapError (refusal path .removeFile)

/-! ## Whole trees -/

/-- The tree that holds nothing but a current directory. -/
def fresh (current : Place) : Disk :=
  { entries := (Path.prefixesOf current).map fun place => (place, .directory)
    current }

/-- The tree with a file and the directories above it; a file that cannot be written is left
out. -/
def plant (disk : Disk) (path content : String) : Disk :=
  let disk := ((Path.parent? path).map fun parent =>
    (makeDirectories (depthOf parent) parent disk).2).getD disk
  ((disk.writeText path content).toOption).getD disk

/-- The files of a tree that hold text, with their places, directory by directory and in order of
their names. -/
def files (disk : Disk) : List (Place × String) :=
  disk.entries.filterMap fun (place, entry) =>
    match entry with
    | .file content => content.map fun content => (place, content)
    | .directory => none

/-- The place that a path leads to, if it is a directory. -/
def placeOf? (disk : Disk) (path : String) : Option Place :=
  match disk.resolve path with
  | .ok (.directory place) => some place
  | .ok (.child parent name _) =>
      if disk.entry? (parent ++ [name]) = some .directory then some (parent ++ [name]) else none
  | .error _ => none

/-- The files below a directory, as names from there on. -/
def filesBelow (disk : Disk) (place : Place) : List Place :=
  disk.entries.filterMap fun (other, entry) =>
    if entry != .directory && place.isPrefixOf other then some (other.drop place.length) else none

end Disk

end Imprint.Storage
