import Imprint.Environment
import Imprint.Evidence
import Imprint.Failure
import Imprint.Record.Json

/-!
# Assembling a record

A record is drawn up from what a command is given, from a record that was saved before and from
the sources of versions.  What is given counts first and the saved record second; versions are
derived only if neither has one.
-/

namespace Imprint

open Storage (SystemFault)

/-- What a command is given about a build. -/
structure RecordOptions where
  given : PerField (Option String)
  rawCommitDate : Option String
  tag : Option String
  branch : Option String
  tagPattern : Option String
  versionFile : Option String
  versionPattern : Option String
  savedRecord : Option String
  deriving DecidableEq

/-- The sources of versions: a variable, the tag and a file. -/
structure VersionSources where
  variableText : Option String
  variablePattern : Option String
  tagPattern : Option String
  file : Option String
  filePattern : String
  deriving DecidableEq

/-- Reads a file by its path. -/
abbrev TextReader := String → Except SystemFault String

namespace RecordOptions

/-- Nothing is given. -/
def empty : RecordOptions where
  given := PerField.const none
  rawCommitDate := none
  tag := none
  branch := none
  tagPattern := none
  versionFile := none
  versionPattern := none
  savedRecord := none

end RecordOptions

namespace VersionSources

/-- The sources that the settings name, apart from what a command is given. -/
def resolve (options : RecordOptions) (settings : VersionSettings) (environment : Environment) :
    VersionSources where
  variableText :=
    if settings.variableName.isEmpty then none else environment.get? settings.variableName
  variablePattern := settings.variablePattern
  tagPattern := some (options.tagPattern.getD settings.tagPattern)
  file := match options.versionFile with
    | some file => some file
    | none => settings.file
  filePattern := options.versionPattern.getD settings.filePattern

/-- The file of the sources with its content, if they have one. -/
def readFile (sources : VersionSources) (read : TextReader) :
    Except Failure (Option FileVersion) :=
  match sources.file with
  | none => .ok none
  | some path =>
      match read path with
      | .ok content => .ok (some ⟨path, content, sources.filePattern⟩)
      | .error cause => .error (.file .readVersion path cause)

end VersionSources

namespace RecordOptions

/-- The record that was saved before, if the options name one. -/
def readSaved (options : RecordOptions) (read : TextReader) :
    Except Failure (Option Record) :=
  match options.savedRecord with
  | none => .ok none
  | some path =>
      match read path with
      | .error cause => .error (.file .readRecord path cause)
      | .ok text =>
          match Record.ofJson? text with
          | some record => .ok (some record)
          | none => .error (.notARecord path)

/-- A value of a saved record, where empty values count as missing. -/
def savedValue (saved : Option Record) (field : Field) : Option String :=
  nonEmpty (saved.map fun record => record.get field)

/-- Whether the value of a field may come from a saved record.  A raw date takes the place of a
saved one, and a tag or a branch that of a saved descriptor. -/
def admitsSaved (options : RecordOptions) : Field → Bool
  | .commitDate => options.rawCommitDate.isNone
  | .commitDescriptor => options.tag.isNone && options.branch.isNone
  | .version | .commitHash | .buildDate => true

/-- The value of a field that is given or saved. -/
def knownValue (options : RecordOptions) (saved : Option Record) (field : Field) :
    Option String :=
  match options.given.get field with
  | some value => some value
  | none => if options.admitsSaved field then savedValue saved field else none

/-- The evidence without any source of versions. -/
def knownEvidence (options : RecordOptions) (saved : Option Record) : Evidence :=
  { Evidence.empty with
    given := PerField.ofFunction (options.knownValue saved)
    rawCommitDate := options.rawCommitDate
    tag := options.tag
    branch := options.branch }

/-- The evidence from options, a saved record and, if neither has a version, the sources of
versions. -/
def evidence (options : RecordOptions) (saved : Option Record) (sources : VersionSources)
    (read : TextReader) : Except Failure Evidence :=
  let known := options.knownEvidence saved
  match known.given.version with
  | some _ => .ok known
  | none => do
      let file ← sources.readFile read
      return { known with
        environment := sources.variableText.map fun text => ⟨text, sources.variablePattern⟩
        tagPattern := sources.tagPattern
        file }

/-- The record at a moment. -/
def assemble (options : RecordOptions) (sources : VersionSources) (read : TextReader)
    (now : Timestamp) : Except Failure Record := do
  let saved ← options.readSaved read
  let evidence ← options.evidence saved sources read
  (evidence.toRecord now).mapError .refused

end RecordOptions

end Imprint
