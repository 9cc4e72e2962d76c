import Imprint.Pair
import Imprint.Storage.Backend
import Imprint.Storage.Path

/-!
# Stamping

Pairs and single files are written to storage.  Nothing that is there is overwritten unless this
is forced.  A pair is written as a whole: if its second half cannot be written, a first half that
was not there before is removed again.  A batch is refused before its first write if one of its
targets is there.
-/

namespace Imprint

open Storage (Backend Task Path.join Path.parent?)

/-- How files are written: whether those that are there may be overwritten, and whether anything
is written at all. -/
structure WriteOptions where
  force : Bool
  dryRun : Bool
  deriving DecidableEq

/-- Where a pair went. -/
structure WrittenPair where
  language : String
  declaration : String
  definition : String
  written : Bool
  deriving DecidableEq

/-- Where a file went. -/
structure WrittenFile where
  path : String
  written : Bool
  deriving DecidableEq

/-- A file to be written beside the pairs of a batch; its title tells what it holds. -/
structure Export where
  title : String
  path : String
  content : String
  deriving DecidableEq

/-- The path of one half of a pair in a directory. -/
def Pair.target (pair : Pair) (directory : String) (half : Half) : String :=
  Storage.Path.join directory (pair.files.get half)

namespace Stamp

variable {σ : Type} [Backend σ]

/-- Fails if something is at a path. -/
def refuseExisting (path : String) : Task σ Unit := do
  if Backend.holds (← get) path then throw (.fileExists path)

/-- Fails if one of the paths is taken, unless overwriting is forced. -/
def refuseTaken (options : WriteOptions) (paths : List String) : Task σ Unit :=
  if options.force then pure () else paths.forM refuseExisting

/-- Writes the second half of a pair.  If that fails, the first half is removed unless it was there
before. -/
def writeDefinition (pair : Pair) (declaration definition : String) (existed : Bool) :
    Task σ Unit :=
  tryCatch (Backend.write definition pair.definition) fun error => do
    if !existed then Task.attempt (Backend.remove declaration : Task σ Unit)
    throw error

/-- Writes both halves of a pair into a directory. -/
def writePair (pair : Pair) (directory : String) (options : WriteOptions) :
    Task σ WrittenPair := do
  let declaration := pair.target directory .declaration
  let definition := pair.target directory .definition
  refuseTaken options [declaration, definition]
  if options.dryRun then return ⟨pair.language, declaration, definition, false⟩
  Backend.createDirectories directory
  let existed := Backend.holds (← get) declaration
  Backend.write declaration pair.declaration
  writeDefinition pair declaration definition existed
  return ⟨pair.language, declaration, definition, true⟩

/-- Creates the directory that a file belongs into. -/
def createParent (path : String) : Task σ Unit :=
  match Storage.Path.parent? path with
  | some parent => if parent.isEmpty then pure () else Backend.createDirectories parent
  | none => pure ()

/-- Writes one file, and the directory that it belongs into. -/
def writeFile (path content : String) (options : WriteOptions) : Task σ WrittenFile := do
  refuseTaken options [path]
  if options.dryRun then return ⟨path, false⟩
  createParent path
  Backend.write path content
  return ⟨path, true⟩

/-- Fails if a target of a batch is taken: either half of a pair in the directory, or another
file. -/
def preflight (pairs : List Pair) (directory : String) (files : List String)
    (options : WriteOptions) : Task σ Unit :=
  refuseTaken options
    ((pairs.flatMap fun pair =>
      [pair.target directory .declaration, pair.target directory .definition]) ++ files)

/-! ## Batches -/

/-- Pairs for one directory and files beside them. -/
structure Batch where
  pairs : List Pair
  directory : String
  exports : List Export

/-- Something that has been written. -/
inductive Written where
  | pair (written : WrittenPair)
  | file (title : String) (written : WrittenFile)

/-- What a batch has written, and the error that ended it early, if there was one. -/
structure BatchResult where
  written : List Written
  error : Option Error

/-- The steps of a batch after its preflight, in order. -/
def Batch.steps (batch : Batch) (options : WriteOptions) : List (Task σ Written) :=
  (batch.pairs.map fun pair => Written.pair <$> writePair pair batch.directory options) ++
    batch.exports.map fun file =>
      Written.file file.title <$> writeFile file.path file.content options

/-- Carries out steps up to the first that fails. -/
def runSteps : List (Task σ Written) → StateM σ BatchResult
  | [] => pure ⟨[], none⟩
  | step :: steps => do
      match ← step.run with
      | .ok written => do
          let result ← runSteps steps
          return { result with written := written :: result.written }
      | .error error => return ⟨[], some error⟩

/-- Writes a batch.  A target that is taken refuses it as a whole. -/
def Batch.run (batch : Batch) (options : WriteOptions) : StateM σ BatchResult := do
  let targets := batch.exports.map Export.path
  match ← (preflight batch.pairs batch.directory targets options : Task σ Unit).run with
  | .ok _ => runSteps (batch.steps options)
  | .error error => return ⟨[], some error⟩

end Stamp

end Imprint
