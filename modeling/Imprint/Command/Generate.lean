import Imprint.Catalog.Rendering
import Imprint.Command.Context
import Imprint.Stamp

/-!
# Generating files

Renders a record in several languages and writes the pairs, and on request the record and its
version.  Everything is rendered before anything is written, and nothing is written if one of the
files is there.
-/

namespace Imprint.Command

open CommandLine (GenerateOptions)
open Stamp (Batch BatchResult Written)
open Storage (Disk)

/-- What is to be written, and the record behind it. -/
structure Plan where
  record : Record
  batch : Batch

namespace Plan

/-- A value that is given, else the one of the settings. -/
def orSetting (given setting : Option String) : Option String :=
  match given with
  | some value => some value
  | none => setting

/-- The files that are written beside the pairs. -/
def exports (context : Context) (options : GenerateOptions) (record : Record) : List Export :=
  let output := context.settings.output
  let info := (orSetting options.buildInfoFile output.buildInfoFile).map fun path =>
    { title := "build info", path, content := (Record.toValue record).pretty ++ "\n" }
  let version := (orSetting options.versionFile output.versionFile).map fun path =>
    { title := "version", path, content := record.version ++ "\n" }
  info.toList ++ version.toList

/-- The languages that are rendered: those that are asked for, else those of the settings. -/
def languages (context : Context) (options : GenerateOptions) : List String :=
  if options.languages.isEmpty then context.settings.defaults.languages else options.languages

/-- The plan of a command. -/
def make (context : Context) (options : GenerateOptions) (disk : Disk) : Except Failure Plan := do
  let selectors := languages context options
  if selectors.isEmpty then throw .noLanguage
  let record ← context.record options.record disk
  let service ← context.service options.service disk
  let pairs ←
    (service.catalog.renderAll service.registry options.checked record selectors).mapError .refused
  return {
    record
    batch := {
      pairs
      directory := options.directory.getD context.settings.output.directory
      exports := exports context options record } }

end Plan

/-- The word for a file that is written or would be. -/
def verb (written : Bool) : String := if written then "Wrote" else "Would write"

/-- The message about something that has been written. -/
def writtenMessage : Written → String
  | .pair pair =>
      s!"{verb pair.written} {pair.declaration} and {pair.definition} ({pair.language})"
  | .file title file => s!"{verb file.written} {title} file {file.path}"

/-- A directory as it is named in messages. -/
def directoryPhrase (directory : String) : String :=
  if directory.isEmpty || Storage.Path.components directory == [.current] then
    "the current directory"
  else directory

/-- The message that ends a command that has written its files. -/
def summary (plan : Plan) : String :=
  s!"Stamped {plan.batch.pairs.length} language(s) into {directoryPhrase plan.batch.directory}"

/-- The pairs that have been written as a JSON array. -/
def pairsToJson (written : List Written) : Json.Value :=
  .array (written.filterMap fun
    | .pair pair => some (.ofEntries
        [("language", .ofString pair.language), ("declaration", .ofString pair.declaration),
         ("definition", .ofString pair.definition)])
    | .file .. => none)

/-- The other files that have been written as a JSON array. -/
def exportsToJson (written : List Written) : Json.Value :=
  .array (written.filterMap fun
    | .pair _ => none
    | .file _ file => some (.ofString file.path))

/-- The report on a command as a JSON object. -/
def generateReport (plan : Plan) (dryRun : Bool) (written : List Written) : Json.Value :=
  .ofEntries
    [("metadata", Record.toValue plan.record), ("dry_run", .boolean dryRun),
     ("pairs", pairsToJson written), ("exports", exportsToJson written)]

/-- What a command says about its work.  Messages about files are given as they are written, also
if a later one cannot be. -/
def generateOutput (console : Console) (options : GenerateOptions) (plan : Plan)
    (result : BatchResult) : String :=
  let messages := String.join (result.written.map fun written =>
    console.message .info (writtenMessage written))
  match result.error with
  | some _ => if console.isJson then "" else messages
  | none =>
      if console.isJson then
        Console.document (generateReport plan options.dryRun result.written)
      else if options.dryRun then messages
      else messages ++ console.message .success (summary plan)

/-- Carries out `generate`. -/
def generate (context : Context) (options : GenerateOptions) (disk : Disk) : Outcome :=
  match Plan.make context options disk with
  | .error failure => Outcome.ofResult disk (.error failure)
  | .ok plan =>
      let (result, disk) :=
        (Stamp.Batch.run plan.batch { force := options.force, dryRun := options.dryRun }).run disk
      { output := generateOutput context.console options plan result
        failure := result.error.map .refused
        disk }

end Imprint.Command
