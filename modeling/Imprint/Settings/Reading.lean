import Imprint.Number.Shortest
import Imprint.Settings.Tree

/-!
# Settings from layers

Reads settings from a merged tree.  Texts may be given as numbers or truth values and truth values
as numbers or words.  A setting that is not there has its standard value; one of another kind is a
mistake.
-/

namespace Imprint.Settings

open Text

namespace Tree

/-- A text, also one that looks like a number or a truth value. -/
def text? : Tree → Option String
  | .text value => some value
  | .truth value => some (toString value)
  | .integer value => some (toString value)
  | .float value => some value.toText
  | .absent | .list _ | .branch _ => none

/-- The truth value of a word. -/
def truthOfWord? (word : String) : Option Bool :=
  match String.ofList (lower word.toList) with
  | "1" | "true" | "on" | "yes" => some true
  | "0" | "false" | "off" | "no" => some false
  | _ => none

/-- A truth value, also as a word or as a number, where only zero is false. -/
def truth? : Tree → Option Bool
  | .truth value => some value
  | .integer value => some (value != 0)
  | .float value => some !value.isZero
  | .text value => truthOfWord? value
  | .absent | .list _ | .branch _ => none

/-- A text that may be absent. -/
def optionalText? : Tree → Option (Option String)
  | .absent => some none
  | tree => tree.text?.map some

/-- A list of texts. -/
def texts? : Tree → Option (List String)
  | .list items => items.mapM text?
  | _ => none

/-- The members of a section: those of a table, or the items of a list in the order of the given
keys. -/
def sectionMembers? (keys : List String) : Tree → Option (List (String × Tree))
  | .branch members => some members
  | .list items => some (keys.zip items)
  | _ => none

/-- A member as it is read, or a fallback if it is not there. -/
def memberOr (members : List (String × Tree)) (key : String) (read : Tree → Option α)
    (fallback : α) : Option α :=
  match members.lookup key with
  | some value => read value
  | none => some fallback

end Tree

/-- The keys of a section in order. -/
def keysOf (name : String) : List String := ((standard.sections.lookup name).getD []).map Prod.fst

/-- What is rendered when a command does not say. -/
def readDefaults? (tree : Tree) : Option DefaultSettings := do
  let members ← tree.sectionMembers? (keysOf "defaults")
  let languages ← Tree.memberOr members "languages" Tree.texts? standard.defaults.languages
  let descriptorName ←
    Tree.memberOr members "descriptor_name" Tree.text? standard.defaults.descriptorName
  some { languages, descriptorName }

/-- Where results go and how messages look. -/
def readOutput? (tree : Tree) : Option OutputSettings := do
  let members ← tree.sectionMembers? (keysOf "output")
  let directory ← Tree.memberOr members "dir" Tree.text? standard.output.directory
  let noColor ← Tree.memberOr members "no_color" Tree.truth? standard.output.noColor
  let format ← Tree.memberOr members "format" Tree.text? standard.output.format
  let buildInfoFile ←
    Tree.memberOr members "build_info_file" Tree.optionalText? standard.output.buildInfoFile
  let versionFile ←
    Tree.memberOr members "version_file" Tree.optionalText? standard.output.versionFile
  some { directory, noColor, format, buildInfoFile, versionFile }

/-- Where further templates are. -/
def readTemplates? (tree : Tree) : Option TemplateSettings := do
  let members ← tree.sectionMembers? (keysOf "templates")
  let localPath ←
    Tree.memberOr members "local_path" Tree.optionalText? standard.templates.localPath
  some { localPath }

/-- How a version is derived. -/
def readVersion? (tree : Tree) : Option VersionSettings := do
  let members ← tree.sectionMembers? (keysOf "version")
  let variableName ← Tree.memberOr members "env_var" Tree.text? standard.version.variableName
  let variablePattern ←
    Tree.memberOr members "env_pattern" Tree.optionalText? standard.version.variablePattern
  let tagPattern ← Tree.memberOr members "tag_pattern" Tree.text? standard.version.tagPattern
  let file ← Tree.memberOr members "file" Tree.optionalText? standard.version.file
  let filePattern ← Tree.memberOr members "file_pattern" Tree.text? standard.version.filePattern
  some { variableName, variablePattern, tagPattern, file, filePattern }

/-- The settings that a tree gives, unless one of them is of the wrong kind. -/
def ofTree? (tree : Tree) : Option Settings := do
  let members := tree.members
  let defaults ← Tree.memberOr members "defaults" readDefaults? standard.defaults
  let output ← Tree.memberOr members "output" readOutput? standard.output
  let templates ← Tree.memberOr members "templates" readTemplates? standard.templates
  let version ← Tree.memberOr members "version" readVersion? standard.version
  some { defaults, output, templates, version }

end Imprint.Settings
