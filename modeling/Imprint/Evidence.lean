import Imprint.Record.Descriptor
import Imprint.Time.Timestamp
import Imprint.Version

/-!
# Evidence of a build

What is known about a build before its record is drawn up: values that are given outright, and
sources from which the missing ones are derived.  Given values always count.  A version comes from
an environment variable, else from the tag, else from a file.
-/

namespace Imprint

/-- A version in an environment variable; with a pattern, a part of the variable. -/
structure EnvironmentVersion where
  text : String
  pattern : Option String
  deriving DecidableEq

/-- A version in the content of a file. -/
structure FileVersion where
  origin : String
  content : String
  pattern : String
  deriving DecidableEq

/-- What is known about a build. -/
structure Evidence where
  given : PerField (Option String)
  environment : Option EnvironmentVersion
  tagPattern : Option String
  file : Option FileVersion
  rawCommitDate : Option String
  tag : Option String
  branch : Option String
  deriving DecidableEq

/-- A text unless it is empty. -/
def nonEmpty (text : Option String) : Option String := text.filter fun text => !text.isEmpty

namespace Evidence

/-- Nothing is known. -/
def empty : Evidence where
  given := PerField.const none
  environment := none
  tagPattern := none
  file := none
  rawCommitDate := none
  tag := none
  branch := none

/-- Everything is given by a record. -/
def ofRecord (record : Record) : Evidence :=
  { empty with given := PerField.ofFunction fun field => some (record.get field) }

/-- The evidence with one value given. -/
def give (evidence : Evidence) (field : Field) (value : String) : Evidence :=
  { evidence with given := evidence.given.set field (some value) }

/-- The version in an environment variable. -/
def versionOfEnvironment (source : EnvironmentVersion) : Except Error String :=
  match nonEmpty source.pattern with
  | some pattern => extractVersion "the version variable" source.text pattern
  | none => .ok source.text

/-- The version in a file, followed by the descriptor, since a file does not identify a commit. -/
def versionOfFile (source : FileVersion) (descriptor : String) : Except Error String := do
  let version ← extractVersion source.origin source.content source.pattern
  return if descriptor.isEmpty then version else version ++ "-" ++ descriptor

/-- The derived version.  An empty variable and an empty tag count as missing, and so does an empty
pattern for tags. -/
def deriveVersion (evidence : Evidence) (descriptor : String) : Except Error String :=
  match evidence.environment.filter fun source => !source.text.isEmpty with
  | some source => versionOfEnvironment source
  | none =>
      match nonEmpty evidence.tag, nonEmpty evidence.tagPattern with
      | some tag, some pattern => extractVersion s!"tag '{tag}'" tag pattern
      | _, _ =>
          match evidence.file with
          | some source => versionOfFile source descriptor
          | none => .ok ""

/-- The date of the commit. -/
def commitDate (evidence : Evidence) : Except Error String :=
  match evidence.given.commitDate, evidence.rawCommitDate with
  | some date, _ => .ok date
  | none, some raw => normalizeDate raw
  | none, none => .ok ""

/-- The hash of the commit. -/
def commitHash (evidence : Evidence) : String := evidence.given.commitHash.getD ""

/-- The descriptor of the commit. -/
def commitDescriptor (evidence : Evidence) : String :=
  evidence.given.commitDescriptor.getD
    (smartDescriptor evidence.tag evidence.branch evidence.commitHash)

/-- The version of the build. -/
def version (evidence : Evidence) : Except Error String :=
  match evidence.given.version with
  | some version => .ok version
  | none => evidence.deriveVersion evidence.commitDescriptor

/-- The record that the evidence gives at a moment.  An unreadable date is reported before a
version that cannot be derived. -/
def toRecord (evidence : Evidence) (now : Timestamp) : Except Error Record := do
  let commitDate ← evidence.commitDate
  let version ← evidence.version
  return {
    version, commitDate
    commitHash := evidence.commitHash
    commitDescriptor := evidence.commitDescriptor
    buildDate := evidence.given.buildDate.getD now.toText }

end Evidence

end Imprint
