import Imprint.Json.Printer
import Imprint.Text.Sorted
import Imprint.Version

/-!
# Settings

What a project or a user can set once instead of giving it with every command: languages, places
of files, the look of messages and the sources of versions.  Settings have a fixed set of keys in
four sections.
-/

namespace Imprint

/-- What is rendered when a command does not say. -/
structure DefaultSettings where
  languages : List String
  descriptorName : String
  deriving DecidableEq

/-- Where results go and how messages look. -/
structure OutputSettings where
  directory : String
  noColor : Bool
  format : String
  buildInfoFile : Option String
  versionFile : Option String
  deriving DecidableEq

/-- Where further templates are. -/
structure TemplateSettings where
  localPath : Option String
  deriving DecidableEq

/-- How a version is derived when none is given. -/
structure VersionSettings where
  variableName : String
  variablePattern : Option String
  tagPattern : String
  file : Option String
  filePattern : String
  deriving DecidableEq

/-- All settings. -/
structure Settings where
  defaults : DefaultSettings
  output : OutputSettings
  templates : TemplateSettings
  version : VersionSettings
  deriving DecidableEq

/-- The value of one setting. -/
inductive Setting where
  | text (value : String)
  | optionalText (value : Option String)
  | texts (values : List String)
  | truth (value : Bool)
  deriving DecidableEq

/-- A setting as JSON; one that is missing is null. -/
def Setting.toJson : Setting → Json.Value
  | .text value => .ofString value
  | .optionalText (some value) => .ofString value
  | .optionalText none => .null
  | .texts values => .array (values.map .ofString)
  | .truth value => .boolean value

namespace Settings

/-- The settings that hold where nothing is set. -/
def standard : Settings where
  defaults := { languages := ["c"], descriptorName := "smart" }
  output := {
    directory := "."
    noColor := false
    format := "auto"
    buildInfoFile := none
    versionFile := none }
  templates := { localPath := none }
  version := {
    variableName := "VERSION"
    variablePattern := none
    tagPattern := defaultTagPattern
    file := none
    filePattern := defaultFilePattern }

/-- The sections with their settings under the keys by which they are known. -/
def sections (settings : Settings) : List (String × List (String × Setting)) :=
  [("defaults",
      [("languages", .texts settings.defaults.languages),
       ("descriptor_name", .text settings.defaults.descriptorName)]),
   ("output",
      [("dir", .text settings.output.directory),
       ("no_color", .truth settings.output.noColor),
       ("format", .text settings.output.format),
       ("build_info_file", .optionalText settings.output.buildInfoFile),
       ("version_file", .optionalText settings.output.versionFile)]),
   ("templates", [("local_path", .optionalText settings.templates.localPath)]),
   ("version",
      [("env_var", .text settings.version.variableName),
       ("env_pattern", .optionalText settings.version.variablePattern),
       ("tag_pattern", .text settings.version.tagPattern),
       ("file", .optionalText settings.version.file),
       ("file_pattern", .text settings.version.filePattern)])]

/-- The settings of a section as a JSON object. -/
def sectionToJson (entries : List (String × Setting)) : Json.Value :=
  .ofEntries (entries.map fun (key, setting) => (key, setting.toJson))

/-- All settings as a JSON object of sections. -/
def toJson (settings : Settings) : Json.Value :=
  .ofEntries (settings.sections.map fun (name, entries) => (name, sectionToJson entries))

/-- What a key names: a section, whose settings are then given in order of their keys, or a setting
behind a section and a dot. -/
def lookup? (settings : Settings) (key : String) : Option Json.Value :=
  match key.splitOn "." with
  | [name] =>
      (settings.sections.lookup name).map fun entries => sectionToJson (Text.sortedEntries entries)
  | [name, member] =>
      ((settings.sections.lookup name).bind (·.lookup member)).map Setting.toJson
  | _ => none

end Settings

end Imprint
