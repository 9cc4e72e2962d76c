import Imprint.Evidence
import Imprint.Proofs.Except

/-!
# Which evidence counts

Values that are given count before anything that is derived, and a version is taken from the first
source that is there.  What does not count is not even read, so it cannot fail.  Main statement:
what the record of a build does not depend on, and when there is none.
-/

namespace Imprint

/-- A source of versions, with all that is read of it. -/
inductive VersionSource where
  | environment (source : EnvironmentVersion)
  | tag (name pattern : String)
  | file (source : FileVersion)

/-- The version that is read from a source. -/
def VersionSource.read (descriptor : String) : VersionSource → Except Error String
  | .environment source => Evidence.versionOfEnvironment source
  | .tag name pattern => extractVersion s!"tag '{name}'" name pattern
  | .file source => Evidence.versionOfFile source descriptor

/-- One thing more that is learned about a build, besides the values that are given. -/
inductive Clue where
  | environment (source : EnvironmentVersion)
  | tagPattern (pattern : String)
  | file (source : FileVersion)
  | rawCommitDate (raw : String)
  | tag (name : String)
  | branch (name : String)

namespace Evidence

/-- The evidence with one thing more. -/
def learn (evidence : Evidence) : Clue → Evidence
  | .environment source => { evidence with environment := some source }
  | .tagPattern pattern => { evidence with tagPattern := some pattern }
  | .file source => { evidence with file := some source }
  | .rawCommitDate raw => { evidence with rawCommitDate := some raw }
  | .tag name => { evidence with tag := some name }
  | .branch name => { evidence with branch := some name }

/-- The source that the version is taken from unless it is given: a variable, else the tag if there
is a pattern for it, else a file. -/
def versionSource? (evidence : Evidence) : Option VersionSource :=
  let environment := evidence.environment.filter fun source => !source.text.isEmpty
  let tag := (nonEmpty evidence.tag).bind fun name =>
    (nonEmpty evidence.tagPattern).map fun pattern => VersionSource.tag name pattern
  (environment.map .environment).or (tag.or (evidence.file.map .file))

variable {evidence : Evidence} {now : Timestamp}

/-! ## Given values -/

theorem given_learn (evidence : Evidence) (clue : Clue) :
    (evidence.learn clue).given = evidence.given := by
  cases clue <;> rfl

/-- Whatever is learned, the given values stay. -/
theorem given_foldl_learn (evidence : Evidence) (clues : List Clue) :
    (clues.foldl learn evidence).given = evidence.given := by
  induction clues generalizing evidence with
  | nil => rfl
  | cons clue clues ih => rw [List.foldl_cons, ih, given_learn]

/-- Nothing is derived if everything is given. -/
theorem toRecord_of_given {record : Record} (given : evidence.given = (ofRecord record).given)
    (now : Timestamp) : evidence.toRecord now = .ok record := by
  rw [toRecord, commitDate, version, commitHash, commitDescriptor, given]
  rfl

/-! ## The source of the version -/

theorem nonEmpty_some {text : String} (filled : text ≠ "") : nonEmpty (some text) = some text := by
  rw [nonEmpty, Option.filter, if_pos (by simpa using filled)]

/-- A derived version is what is read from the source. -/
theorem deriveVersion_eq (evidence : Evidence) (descriptor : String) :
    evidence.deriveVersion descriptor =
      match evidence.versionSource? with
      | some source => source.read descriptor
      | none => .ok "" := by
  rw [deriveVersion, versionSource?]
  cases evidence.environment.filter fun source => !source.text.isEmpty with
  | some source => rfl
  | none =>
      cases nonEmpty evidence.tag with
      | none => cases evidence.file <;> rfl
      | some name =>
          cases nonEmpty evidence.tagPattern with
          | some pattern => rfl
          | none => cases evidence.file <;> rfl

/-- A variable comes first. -/
theorem versionSource?_of_environment {source : EnvironmentVersion}
    (there : evidence.environment = some source) (filled : source.text ≠ "") :
    evidence.versionSource? = some (.environment source) := by
  rw [versionSource?, there, Option.filter, if_pos (by simpa using filled)]
  rfl

/-- A tag comes before a file if there is a pattern for it. -/
theorem versionSource?_of_tag {name pattern : String}
    (unset : ∀ source, evidence.environment = some source → source.text = "")
    (tagged : evidence.tag = some name) (named : name ≠ "")
    (patterned : evidence.tagPattern = some pattern) (filled : pattern ≠ "") :
    evidence.versionSource? = some (.tag name pattern) := by
  have noVariable : (evidence.environment.filter fun source => !source.text.isEmpty) = none := by
    rw [Option.filter_eq_none_iff]
    intro source there
    simp [unset source there]
  rw [versionSource?, noVariable, tagged, patterned, nonEmpty_some named, nonEmpty_some filled]
  rfl

/-- What the version can be taken from does not count as long as the source is the same. -/
theorem toRecord_congr {environment : Option EnvironmentVersion} {tagPattern : Option String}
    {file : Option FileVersion}
    (source : { evidence with environment, tagPattern, file }.versionSource? =
      evidence.versionSource?) (now : Timestamp) :
    { evidence with environment, tagPattern, file }.toRecord now = evidence.toRecord now := by
  rw [toRecord, toRecord, version, version, deriveVersion_eq, deriveVersion_eq, source]
  rfl

theorem version_of_toRecord_eq_ok {record : Record} (built : evidence.toRecord now = .ok record) :
    evidence.version = .ok record.version := by
  rw [toRecord, bind_eq_ok_iff] at built
  obtain ⟨date, -, built⟩ := built
  rw [bind_eq_ok_iff] at built
  obtain ⟨version, read, built⟩ := built
  cases built
  exact read

/-! ## Failures -/

/-- Only a date that is to be derived can be unreadable. -/
theorem commitDate_eq_error_iff {cause : Error} :
    evidence.commitDate = .error cause ↔
      evidence.given.commitDate = none ∧
        ∃ raw, evidence.rawCommitDate = some raw ∧ normalizeDate raw = .error cause := by
  rw [commitDate]
  cases evidence.given.commitDate with
  | some date => simp
  | none => cases evidence.rawCommitDate <;> simp

/-- Only the source of a version that is to be derived can fail. -/
theorem version_eq_error_iff {cause : Error} :
    evidence.version = .error cause ↔
      evidence.given.version = none ∧ ∃ source, evidence.versionSource? = some source ∧
        source.read evidence.commitDescriptor = .error cause := by
  rw [version, deriveVersion_eq]
  cases evidence.given.version with
  | some version => simp
  | none => cases evidence.versionSource? <;> simp

/-- There is no record if the date cannot be read, or else if there is no version. -/
theorem toRecord_eq_error_iff {cause : Error} :
    evidence.toRecord now = .error cause ↔
      evidence.commitDate = .error cause ∨
        (∃ date, evidence.commitDate = .ok date) ∧ evidence.version = .error cause := by
  simp [toRecord, bind_eq_error_iff, pure, Except.pure]

/-- A record gives back itself, whatever is learned besides.  A version in a variable counts before
a tag and a file, and a tag with a pattern before a file, even if the pattern does not match.  There
is no record exactly if a date that is not given cannot be read, or a version that is not given
cannot be read from its source. -/
theorem toRecord_priority (now : Timestamp) :
    (∀ record (clues : List Clue),
      (clues.foldl learn (ofRecord record)).toRecord now = .ok record) ∧
    (∀ (evidence : Evidence) source, evidence.environment = some source → source.text ≠ "" →
      ∀ tagPattern file,
        { evidence with tagPattern, file }.toRecord now = evidence.toRecord now) ∧
    (∀ (evidence : Evidence) name pattern,
      (∀ source, evidence.environment = some source → source.text = "") →
      evidence.tag = some name → name ≠ "" →
      evidence.tagPattern = some pattern → pattern ≠ "" →
        (∀ file, { evidence with file }.toRecord now = evidence.toRecord now) ∧
        (evidence.given.version = none → ∀ record, evidence.toRecord now = .ok record →
          extractVersion s!"tag '{name}'" name pattern = .ok record.version)) ∧
    ∀ (evidence : Evidence) cause, evidence.toRecord now = .error cause ↔
      (evidence.given.commitDate = none ∧
        ∃ raw, evidence.rawCommitDate = some raw ∧ normalizeDate raw = .error cause) ∨
      (∃ date, evidence.commitDate = .ok date) ∧
        evidence.given.version = none ∧ ∃ source, evidence.versionSource? = some source ∧
          source.read evidence.commitDescriptor = .error cause := by
  refine ⟨fun record clues => toRecord_of_given (given_foldl_learn (ofRecord record) clues) now,
    ?_, ?_, fun evidence cause => ?_⟩
  · intro evidence source there filled tagPattern file
    refine toRecord_congr ?_ now
    rw [versionSource?_of_environment there filled]
    exact versionSource?_of_environment there filled
  · intro evidence name pattern unset tagged named patterned filled
    have source := versionSource?_of_tag unset tagged named patterned filled
    refine ⟨fun file => toRecord_congr ?_ now, fun ungiven record built => ?_⟩
    · rw [source]
      exact versionSource?_of_tag unset tagged named patterned filled
    · have read := version_of_toRecord_eq_ok built
      rw [version, ungiven, deriveVersion_eq, source] at read
      exact read
  · rw [toRecord_eq_error_iff, commitDate_eq_error_iff, version_eq_error_iff]

/-- The version comes from the tag; no pattern but that for tags can be read. -/
def taggedEvidence : Evidence :=
  { empty with
    environment := some ⟨"", some "("⟩
    tagPattern := some "v(.)"
    file := some ⟨"VERSION", "8", "("⟩
    tag := some "v7" }

/-- The same with a variable that holds a version. -/
def variableEvidence : Evidence := { taggedEvidence with environment := some ⟨"9", none⟩ }

theorem toRecord_priority_taggedEvidence :
    ([Clue.tagPattern "(", .rawCommitDate "soon"].foldl learn
        (ofRecord Record.empty)).toRecord ⟨0⟩ = .ok Record.empty ∧
      { variableEvidence with tagPattern := some "(", file := none }.toRecord ⟨0⟩ =
        variableEvidence.toRecord ⟨0⟩ ∧
      { taggedEvidence with file := none }.toRecord ⟨0⟩ = taggedEvidence.toRecord ⟨0⟩ ∧
      extractVersion "tag 'v7'" "v7" "v(.)" = .ok "7" ∧
      { taggedEvidence with tag := some "8" }.toRecord ⟨0⟩ =
        .error (.noVersion "tag '8'" "v(.)") := by
  obtain ⟨saved, environment, tag, failure⟩ := toRecord_priority ⟨0⟩
  have emptyVariable source (there : taggedEvidence.environment = some source) :
      source.text = "" := by
    cases there
    rfl
  have built : taggedEvidence.toRecord ⟨0⟩ = .ok ⟨"7", "", "", "v7", "1970-01-01-0000"⟩ := rfl
  obtain ⟨fileless, read⟩ :=
    tag taggedEvidence "v7" "v(.)" emptyVariable rfl (by decide) rfl (by decide)
  refine ⟨saved _ _, ?_, fileless none, read rfl _ built, ?_⟩
  · exact environment variableEvidence ⟨"9", none⟩ rfl (by decide) (some "(") none
  · exact (failure _ _).mpr (.inr ⟨⟨"", rfl⟩, rfl, .tag "8" "v(.)", rfl, rfl⟩)

end Evidence

end Imprint
