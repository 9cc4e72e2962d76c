import Imprint.Command.Generate
import Imprint.Proofs.Record.Members

/-!
# Importing an exported record

A record that is written beside its pairs can be given to a later run, as the record that was saved
before.  An empty value of a saved record counts as missing, and what is missing is derived.  So the
later run works with the same record, except that an empty descriptor is derived from the hash.
-/

namespace Imprint

open Command (Context Plan)
open CommandLine (GenerateOptions)

namespace Record

variable {record : Record}

/-- The descriptor of a record, derived from the hash if it is empty. -/
def derivedDescriptor (record : Record) : String :=
  if record.commitDescriptor = "" then String.ofList (shortHash record.commitHash.toList)
  else record.commitDescriptor

theorem derivedDescriptor_eq_iff :
    record.derivedDescriptor = record.commitDescriptor ↔
      (record.commitDescriptor = "" → record.commitHash = "") := by
  rw [derivedDescriptor]
  by_cases blank : record.commitDescriptor = ""
  · rw [if_pos blank, blank, forall_prop_of_true rfl, ← String.toList_inj, String.toList_ofList,
      shortHash, ← String.toList_inj]
    simp [shortHashLength]
  · simp [blank]

end Record

namespace RecordOptions

/-- Nothing is given but a saved record. -/
def ofSaved (path : String) : RecordOptions := { empty with savedRecord := some path }

variable {record : Record}

/-- An empty value that counts as missing is empty in the end. -/
theorem getD_savedValue (record : Record) (field : Field) :
    (savedValue (some record) field).getD "" = record.get field := by
  rw [savedValue, nonEmpty, Option.map_some, Option.filter]
  by_cases blank : (record.get field).isEmpty = true
  · simp [String.isEmpty_iff.mp blank]
  · simp [blank]

/-- A saved record that is an export is read. -/
theorem readSaved_ofSaved {read : TextReader} {path text : String} (found : read path = .ok text)
    (saved : Record.ofJson? text = some record) :
    (ofSaved path).readSaved read = .ok (some record) := by
  simp [readSaved, ofSaved, found, saved]

/-- The evidence of a saved record, with a pattern for tags. -/
def savedEvidence (path : String) (record : Record) (tagPattern : Option String) : Evidence :=
  { (ofSaved path).knownEvidence (some record) with tagPattern }

/-- Without a variable and without a file the sources of versions add a pattern for tags at
most. -/
theorem evidence_ofSaved {sources : VersionSources} (noVariable : sources.variableText = none)
    (noFile : sources.file = none) (path : String) (record : Record) (read : TextReader) :
    ∃ tagPattern, (ofSaved path).evidence (some record) sources read =
      .ok (savedEvidence path record tagPattern) := by
  rw [evidence]
  cases ((ofSaved path).knownEvidence (some record)).given.version with
  | some version => exact ⟨_, rfl⟩
  | none =>
      refine ⟨sources.tagPattern, ?_⟩
      simp only [VersionSources.readFile, noVariable, noFile]
      rfl

theorem savedValue_eq_some {field : Field} (there : record.get field ≠ "") :
    savedValue (some record) field = some (record.get field) := by
  simp [savedValue, nonEmpty, Option.filter, there]

theorem savedValue_eq_none {field : Field} (blank : record.get field = "") :
    savedValue (some record) field = none := by
  simp [savedValue, nonEmpty, Option.filter, blank]

end RecordOptions

/-! ## Evidence without sources -/

namespace Evidence

/-- Evidence that has values only, without anything to derive them from but the hash. -/
structure Sourceless (evidence : Evidence) : Prop where
  environment : evidence.environment = none
  file : evidence.file = none
  rawCommitDate : evidence.rawCommitDate = none
  tag : evidence.tag = none
  branch : evidence.branch = none

variable {evidence : Evidence}

/-- A version or a date that is neither given nor derived is empty. -/
theorem Sourceless.version_eq (sourceless : evidence.Sourceless) :
    evidence.version = .ok (evidence.given.version.getD "") := by
  rw [version]
  cases evidence.given.version with
  | some version => rfl
  | none =>
      rw [deriveVersion, sourceless.environment, sourceless.tag, sourceless.file]
      rfl

theorem Sourceless.commitDate_eq (sourceless : evidence.Sourceless) :
    evidence.commitDate = .ok (evidence.given.commitDate.getD "") := by
  rw [commitDate, sourceless.rawCommitDate]
  cases evidence.given.commitDate with
  | some date => rfl
  | none => rfl

theorem Sourceless.commitDescriptor_eq (sourceless : evidence.Sourceless) :
    evidence.commitDescriptor = evidence.given.commitDescriptor.getD
      (String.ofList (shortHash evidence.commitHash.toList)) := by
  rw [commitDescriptor, sourceless.tag, sourceless.branch]
  rfl

/-- The record of such evidence holds the values that are given. -/
theorem Sourceless.toRecord_eq (sourceless : evidence.Sourceless) (now : Timestamp) :
    evidence.toRecord now = .ok {
      version := evidence.given.version.getD ""
      commitHash := evidence.given.commitHash.getD ""
      commitDate := evidence.given.commitDate.getD ""
      commitDescriptor := evidence.given.commitDescriptor.getD
        (String.ofList (shortHash (evidence.given.commitHash.getD "").toList))
      buildDate := evidence.given.buildDate.getD now.toText } := by
  rw [toRecord, sourceless.commitDate_eq, sourceless.version_eq, sourceless.commitDescriptor_eq]
  rfl

end Evidence

/-! ## Imports -/

namespace RecordOptions

variable {record : Record} {path : String}

theorem sourceless_savedEvidence (path : String) (record : Record) (tagPattern : Option String) :
    (savedEvidence path record tagPattern).Sourceless :=
  ⟨rfl, rfl, rfl, rfl, rfl⟩

/-- The record that is drawn up from a saved one with a build date. -/
theorem toRecord_savedEvidence (dated : record.buildDate ≠ "") (tagPattern : Option String)
    (now : Timestamp) :
    (savedEvidence path record tagPattern).toRecord now =
      .ok { record with commitDescriptor := record.derivedDescriptor } := by
  have hash := getD_savedValue record .commitHash
  have descriptor : (savedValue (some record) .commitDescriptor).getD
      (String.ofList (shortHash record.commitHash.toList)) = record.derivedDescriptor := by
    rw [Record.derivedDescriptor]
    by_cases blank : record.commitDescriptor = ""
    · rw [if_pos blank, @savedValue_eq_none record .commitDescriptor blank, Option.getD_none]
    · rw [if_neg blank, @savedValue_eq_some record .commitDescriptor blank, Option.getD_some]
      rfl
  rw [(sourceless_savedEvidence path record tagPattern).toRecord_eq]
  refine congrArg Except.ok (PerField.ext_get fun field => ?_)
  cases field with
  | version => exact getD_savedValue record .version
  | commitHash => exact hash
  | commitDate => exact getD_savedValue record .commitDate
  | commitDescriptor => exact hash ▸ descriptor
  | buildDate =>
      have there : savedValue (some record) .buildDate = some record.buildDate :=
        savedValue_eq_some dated
      exact congrArg (Option.getD · now.toText) there

/-- A saved record with a build date is the record of the run, apart from its descriptor. -/
theorem assemble_ofSaved {read : TextReader} {text : String} (found : read path = .ok text)
    (saved : Record.ofJson? text = some record) (dated : record.buildDate ≠ "")
    {sources : VersionSources} (noVariable : sources.variableText = none)
    (noFile : sources.file = none) (now : Timestamp) :
    (ofSaved path).assemble sources read now =
      .ok { record with commitDescriptor := record.derivedDescriptor } := by
  obtain ⟨tagPattern, known⟩ := evidence_ofSaved noVariable noFile path record read
  rw [assemble, readSaved_ofSaved found saved]
  simp only [bind, Except.bind, known]
  rw [toRecord_savedEvidence dated]
  rfl

end RecordOptions

/-! ## Exports -/

namespace Record

open RecordOptions (ofSaved)

variable {record : Record} {context : Context} {options : GenerateOptions}

/-- What is exported as the build info is the record as a document with a line break behind it. -/
theorem content_of_mem_exports {file : Export}
    (listed : file ∈ Plan.exports context options record) (info : file.title = "build info") :
    file.content = (toValue record).pretty ++ "\n" := by
  simp only [Plan.exports, List.mem_append, Option.mem_toList, Option.map_eq_some_iff] at listed
  rcases listed with ⟨path, -, rfl⟩ | ⟨path, -, rfl⟩
  · rfl
  · have different : "version" ≠ "build info" := by decide
    exact absurd info different

/-- The export of a record is read as that record. -/
theorem ofJson?_export {file : Export} (listed : file ∈ Plan.exports context options record)
    (info : file.title = "build info") : ofJson? file.content = some record := by
  rw [content_of_mem_exports listed info]
  apply ofJson?_of_document
  rw [String.toList_append]
  exact Json.document_pretty (printable_toValue record) (Json.space_line 0)

/-- A run that is given nothing but the export of a record with a build date, and that finds a
version neither in a variable nor in a file, works with that record, except that an empty
descriptor is derived from the hash.  So it works with the very same record unless the descriptor
is empty and the hash is not. -/
theorem assemble_exported {file : Export} (listed : file ∈ Plan.exports context options record)
    (info : file.title = "build info") {read : TextReader} {path : String}
    (found : read path = .ok file.content) (dated : record.buildDate ≠ "")
    {sources : VersionSources} (noVariable : sources.variableText = none)
    (noFile : sources.file = none) (now : Timestamp) :
    (ofSaved path).assemble sources read now =
        .ok { record with commitDescriptor := record.derivedDescriptor } ∧
      ((ofSaved path).assemble sources read now = .ok record ↔
        (record.commitDescriptor = "" → record.commitHash = "")) := by
  have assembled := RecordOptions.assemble_ofSaved found (ofJson?_export listed info) dated
    noVariable noFile now
  refine ⟨assembled, ?_⟩
  rw [assembled, ← derivedDescriptor_eq_iff]
  constructor
  · intro same
    exact congrArg PerField.commitDescriptor (Except.ok.inj same)
  · intro same
    rw [same]

/-! ### A record without a descriptor -/

/-- A record of a commit without a descriptor, and without a version. -/
def undescribedRecord : Record := ⟨"", "0123456789abcdef", "2024-01-02", "", "2024-01-02-0304"⟩

/-- A command that finds nothing set. -/
def bareContext : Context where
  environment := []
  now := ⟨0⟩
  settings := Settings.standard
  console := ⟨.plain, false, false⟩

/-- A command that exports its record. -/
def exportingOptions : GenerateOptions where
  languages := ["c"]
  record := RecordOptions.empty
  service := ⟨none, none⟩
  directory := none
  checked := false
  dryRun := false
  force := false
  buildInfoFile := some "build.json"
  versionFile := none

/-- What it exports. -/
def undescribedExport : Export :=
  ⟨"build info", "build.json", (toValue undescribedRecord).pretty ++ "\n"⟩

theorem undescribedExport_mem :
    undescribedExport ∈ Plan.exports bareContext exportingOptions undescribedRecord :=
  List.mem_cons_self

/-- Sources of versions with nothing but a pattern for tags. -/
def tagSources : VersionSources := ⟨none, none, some defaultTagPattern, none, defaultFilePattern⟩

/-- A file system that holds nothing but the export. -/
def exportReader : TextReader := fun path =>
  if path = undescribedExport.path then .ok undescribedExport.content else .error .noEntry

theorem exportReader_path :
    exportReader undescribedExport.path = .ok undescribedExport.content :=
  if_pos rfl

/-- The run works with a record that has a descriptor. -/
theorem assemble_exported_undescribed :
    undescribedExport ∈ Plan.exports bareContext exportingOptions undescribedRecord ∧
      undescribedRecord.buildDate ≠ "" ∧
      (ofSaved undescribedExport.path).assemble tagSources exportReader ⟨0⟩ =
        .ok { undescribedRecord with commitDescriptor := "0123456" } ∧
      ((ofSaved undescribedExport.path).assemble tagSources exportReader ⟨0⟩ =
          .ok undescribedRecord ↔
        (undescribedRecord.commitDescriptor = "" → undescribedRecord.commitHash = "")) := by
  have dated : undescribedRecord.buildDate ≠ "" := by decide
  have info : undescribedExport.title = "build info" := rfl
  have noVariable : tagSources.variableText = none := rfl
  have noFile : tagSources.file = none := rfl
  have assembled := assemble_exported undescribedExport_mem info exportReader_path dated
    noVariable noFile ⟨0⟩
  have derived : undescribedRecord.derivedDescriptor = "0123456" := by decide
  rw [derived] at assembled
  exact ⟨undescribedExport_mem, dated, assembled⟩

/-- The record is exported, but a run that imports it works with another one. -/
theorem assemble_ne_undescribedRecord :
    undescribedExport ∈ Plan.exports bareContext exportingOptions undescribedRecord ∧
      undescribedRecord.buildDate ≠ "" ∧
      (ofSaved undescribedExport.path).assemble tagSources exportReader ⟨0⟩ ≠
        .ok undescribedRecord := by
  have dated : undescribedRecord.buildDate ≠ "" := by decide
  have info : undescribedExport.title = "build info" := rfl
  have saved := ofJson?_export undescribedExport_mem info
  have noVariable : tagSources.variableText = none := rfl
  have noFile : tagSources.file = none := rfl
  have assembled := RecordOptions.assemble_ofSaved exportReader_path saved dated noVariable
    noFile ⟨0⟩
  refine ⟨undescribedExport_mem, dated, ?_⟩
  rw [assembled]
  intro same
  have descriptor : undescribedRecord.derivedDescriptor = "" :=
    congrArg PerField.commitDescriptor (Except.ok.inj same)
  exact absurd descriptor (by decide)

end Record

end Imprint
