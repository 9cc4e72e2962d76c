import Imprint.Program

/-!
# What a run looks at

The paths that a run of the program may look at, so that nothing else has to be read before.  They
are known in three steps: files with variables, then files with settings, then what the command
itself needs.
-/

namespace Imprint

open CommandLine (GenerateOptions Invocation ServiceOptions)

/-- Paths that are looked at: on their own, with what they hold, or with all that is below. -/
structure Footprint where
  entries : List String
  folders : List String
  trees : List String

namespace Footprint

/-- The files with variables for a working directory. -/
def ofPlace (place : Storage.Place) : Footprint :=
  { entries := Environment.candidatePaths place, folders := [], trees := [] }

/-- The files with settings. -/
def ofSettingsFile (environment : Environment) (explicit : Option String) : Footprint :=
  let entries := match explicit with
    | some path => path :: (Settings.completions path).map Prod.fst
    | none => [Settings.projectFile, Settings.userFile environment]
  { entries, folders := [], trees := [] }

/-- The directories of templates. -/
def templateTrees (environment : Environment) (settings : Settings) (options : ServiceOptions) :
    List String :=
  options.templates.toList ++ settings.templates.localPath.toList ++
    Catalog.directories none (environment.get? Command.Context.templatesVariable)

/-- The files that a record is assembled from. -/
def recordEntries (settings : Settings) (options : RecordOptions) : List String :=
  options.savedRecord.toList ++ options.versionFile.toList ++ settings.version.file.toList

/-- The files that are written beside pairs. -/
def exportEntries (settings : Settings) (options : GenerateOptions) : List String :=
  options.buildInfoFile.toList ++ options.versionFile.toList ++
    settings.output.buildInfoFile.toList ++ settings.output.versionFile.toList

/-- What a command looks at. -/
def ofInvocation (environment : Environment) (settings : Settings) (invocation : Invocation) :
    Footprint :=
  match invocation.command with
  | .generate options =>
      { entries := recordEntries settings options.record ++ exportEntries settings options
        folders := [options.directory.getD settings.output.directory]
        trees := templateTrees environment settings options.service }
  | .render options =>
      { entries := recordEntries settings options.record
        folders := []
        trees := templateTrees environment settings options.service }
  | .check options =>
      { entries := [options.files.declaration, options.files.definition]
        folders := []
        trees := templateTrees environment settings options.service }
  | .list options =>
      { entries := [], folders := [], trees := templateTrees environment settings options.service }
  | .init _ =>
      { entries := [Settings.projectFile, Settings.userFile environment], folders := [],
        trees := [] }
  | .settings _ => ofSettingsFile environment invocation.options.settingsFile

end Footprint

end Imprint
