import Imprint.Assembly
import Imprint.Proofs.Record.Priority

/-!
# Empty tags and branches

An empty tag or branch says as little as none at all, and the record of a build is drawn up
accordingly.  A saved descriptor, however, is set aside as soon as a tag or a branch is there, be it
empty.  Main statement: an empty tag or branch counts as missing exactly if no descriptor is lost in
this way, or if the one that is derived instead is the same.
-/

namespace Imprint

variable {tag tag' branch branch' : Option String}

theorem getD_nonEmpty (text : Option String) : (nonEmpty text).getD "" = text.getD "" := by
  cases text with
  | none => rfl
  | some text =>
      rw [nonEmpty, Option.filter]
      by_cases blank : text = ""
      · simp [blank]
      · simp [blank]

theorem smartDescriptor_congr (tags : nonEmpty tag = nonEmpty tag')
    (branches : nonEmpty branch = nonEmpty branch') (hash : String) :
    smartDescriptor tag branch hash = smartDescriptor tag' branch' hash := by
  rw [smartDescriptor, smartDescriptor, ← getD_nonEmpty tag, ← getD_nonEmpty branch, tags,
    branches, getD_nonEmpty, getD_nonEmpty]

/-! ## Drawing up a record -/

/-- Whether a version can be read from a source does not depend on the descriptor. -/
theorem VersionSource.read_eq_error_iff {descriptor other : String} {cause : Error}
    (source : VersionSource) :
    source.read descriptor = .error cause ↔ source.read other = .error cause := by
  cases source with
  | environment source => exact Iff.rfl
  | tag name pattern => exact Iff.rfl
  | file source =>
      simp [read, Evidence.versionOfFile, bind_eq_error_iff, pure, Except.pure]

namespace Evidence

variable {evidence : Evidence} {now : Timestamp}

/-- A record holds what the evidence says about each field. -/
theorem toRecord_eq_ok_iff {record : Record} :
    evidence.toRecord now = .ok record ↔
      evidence.commitDate = .ok record.commitDate ∧ evidence.version = .ok record.version ∧
        record.commitHash = evidence.commitHash ∧
        record.commitDescriptor = evidence.commitDescriptor ∧
        record.buildDate = evidence.given.buildDate.getD now.toText := by
  rw [toRecord, bind_eq_ok_iff]
  constructor
  · rintro ⟨date, dated, built⟩
    rw [bind_eq_ok_iff] at built
    obtain ⟨version, read, built⟩ := built
    cases built
    exact ⟨dated, read, rfl, rfl, rfl⟩
  · rintro ⟨dated, read, hash, descriptor, built⟩
    refine ⟨record.commitDate, dated, ?_⟩
    rw [bind_eq_ok_iff]
    refine ⟨record.version, read, ?_⟩
    rw [← hash, ← descriptor, ← built]
    rfl

/-- An empty tag is no tag for a record, and an empty branch is no branch. -/
theorem toRecord_congr_marks (evidence : Evidence) (tags : nonEmpty tag = nonEmpty evidence.tag)
    (branches : nonEmpty branch = nonEmpty evidence.branch) (now : Timestamp) :
    { evidence with tag, branch }.toRecord now = evidence.toRecord now := by
  have descriptor : { evidence with tag, branch }.commitDescriptor = evidence.commitDescriptor := by
    rw [commitDescriptor, commitDescriptor, ← smartDescriptor_congr tags branches]
    rfl
  have version : { evidence with tag, branch }.version = evidence.version := by
    rw [version, version, descriptor, deriveVersion, deriveVersion, tags]
  rw [toRecord, toRecord, version, descriptor]
  rfl

/-- The evidence without a given descriptor. -/
def undescribed (evidence : Evidence) : Evidence :=
  { evidence with given := { evidence.given with commitDescriptor := none } }

/-- A given descriptor makes no difference exactly if it is the one that would be derived, or if
there is no record at all. -/
theorem toRecord_undescribed_iff :
    evidence.undescribed.toRecord now = evidence.toRecord now ↔
      ∀ record, evidence.toRecord now = .ok record →
        record.commitDescriptor =
          smartDescriptor evidence.tag evidence.branch record.commitHash := by
  constructor
  · intro same record built
    have hash := (toRecord_eq_ok_iff.mp built).2.2.1
    rw [← same] at built
    have descriptor := (toRecord_eq_ok_iff.mp built).2.2.2.1
    rw [descriptor, hash]
    rfl
  · intro derived
    cases built : evidence.toRecord now with
    | ok record =>
        obtain ⟨dated, read, hash, descriptor, finished⟩ := toRecord_eq_ok_iff.mp built
        have same : evidence.undescribed.commitDescriptor = evidence.commitDescriptor := by
          rw [← descriptor, derived record built, hash]
          rfl
        refine toRecord_eq_ok_iff.mpr ⟨dated, ?_, hash, descriptor.trans same.symm, finished⟩
        rw [← read, version, version, same]
        rfl
    | error cause =>
        -- The descriptor has no part in the date, nor in whether there is a version.
        rw [toRecord_eq_error_iff, version_eq_error_iff] at built ⊢
        obtain undated | ⟨dated, ungiven, source, chosen, failed⟩ := built
        · exact .inl undated
        · exact .inr ⟨dated, ungiven, source, chosen, source.read_eq_error_iff.mp failed⟩

end Evidence

/-! ## Assembling it -/

namespace RecordOptions

variable {options : RecordOptions} {sources : VersionSources} {read : TextReader} {now : Timestamp}

/-- The same options with another tag and another branch. -/
def marked (options : RecordOptions) (tag branch : Option String) : RecordOptions :=
  { options with tag, branch }

/-- The descriptor of a saved record that counts as long as there is neither a tag nor a branch. -/
def keptDescriptor? (options : RecordOptions) (read : TextReader) : Option String :=
  match options.given.commitDescriptor, options.readSaved read with
  | none, .ok saved => savedValue saved .commitDescriptor
  | _, _ => none

/-- Evidence with a tag, a branch and what is known of the descriptor. -/
def withMarks (options : RecordOptions) (saved : Option Record) (evidence : Evidence) : Evidence :=
  { evidence with
    given := { evidence.given with
      commitDescriptor := options.knownValue saved .commitDescriptor }
    tag := options.tag
    branch := options.branch }

/-- Tag and branch count for themselves and for the descriptor only. -/
theorem evidence_marked (options : RecordOptions) (tag branch : Option String)
    (saved : Option Record) (sources : VersionSources) (read : TextReader) :
    (options.marked tag branch).evidence saved sources read =
      (options.evidence saved sources read).map
        ((options.marked tag branch).withMarks saved) := by
  have version : ((options.marked tag branch).knownEvidence saved).given.version =
      (options.knownEvidence saved).given.version := rfl
  rw [evidence, evidence, version]
  cases (options.knownEvidence saved).given.version with
  | some version => rfl
  | none => cases sources.readFile read <;> rfl

theorem refused_injective {first second : Except Error Record} :
    first.mapError Failure.refused = second.mapError Failure.refused ↔ first = second := by
  cases first <;> cases second <;> simp

theorem mapError_refused_eq_ok_iff {result : Except Error Record} {record : Record} :
    result.mapError Failure.refused = .ok record ↔ result = .ok record := by
  cases result <;> simp

/-- What becomes of the options with a tag and a branch, once everything else has been read. -/
theorem assemble_marked (tag branch : Option String) {saved : Option Record} {evidence : Evidence}
    (found : options.readSaved read = .ok saved)
    (known : options.evidence saved sources read = .ok evidence) (now : Timestamp) :
    (options.marked tag branch).assemble sources read now =
      (((options.marked tag branch).withMarks saved evidence).toRecord now).mapError .refused := by
  have same : (options.marked tag branch).readSaved read = options.readSaved read := rfl
  rw [assemble, same, found]
  simp only [bind, Except.bind]
  rw [evidence_marked, known]
  rfl

/-- Nothing is drawn up if the saved record or what else is needed cannot be read. -/
theorem assemble_marked_congr
    (same : ∀ saved evidence, options.readSaved read = .ok saved →
      options.evidence saved sources read = .ok evidence →
        ((options.marked tag branch).withMarks saved evidence).toRecord now =
          ((options.marked tag' branch').withMarks saved evidence).toRecord now) :
    (options.marked tag branch).assemble sources read now =
      (options.marked tag' branch').assemble sources read now := by
  cases found : options.readSaved read with
  | error failure =>
      have unread tag branch : (options.marked tag branch).readSaved read = .error failure := found
      rw [assemble, assemble, unread, unread]
      rfl
  | ok saved =>
      cases known : options.evidence saved sources read with
      | error failure =>
          have unread tag branch : (options.marked tag branch).readSaved read = .ok saved := found
          rw [assemble, assemble, unread, unread]
          simp only [bind, Except.bind]
          rw [evidence_marked, evidence_marked, known]
          rfl
      | ok evidence =>
          rw [assemble_marked tag branch found known, assemble_marked tag' branch' found known,
            same saved evidence found known]

/-- Whether a mark is empty does not matter if a descriptor is set aside in both cases or in
neither. -/
theorem assemble_marked_of_admits (tag tag' branch branch' : Option String)
    (tags : nonEmpty tag = nonEmpty tag') (branches : nonEmpty branch = nonEmpty branch')
    (admits : (tag.isNone && branch.isNone) = (tag'.isNone && branch'.isNone)) :
    (options.marked tag branch).assemble sources read now =
      (options.marked tag' branch').assemble sources read now := by
  refine assemble_marked_congr fun saved evidence _ _ => ?_
  have known : (options.marked tag branch).knownValue saved .commitDescriptor =
      (options.marked tag' branch').knownValue saved .commitDescriptor := by
    rw [knownValue, knownValue]
    simp only [marked, admitsSaved, admits]
    rfl
  rw [withMarks, withMarks, known]
  exact Evidence.toRecord_congr_marks ((options.marked tag' branch').withMarks saved evidence) tags
    branches now

theorem keptDescriptor?_eq_some_iff {kept : String} :
    options.keptDescriptor? read = some kept ↔
      options.given.commitDescriptor = none ∧ ∃ saved, options.readSaved read = .ok saved ∧
        savedValue saved .commitDescriptor = some kept := by
  rw [keptDescriptor?]
  cases options.given.commitDescriptor with
  | some descriptor => simp
  | none => cases options.readSaved read <;> simp

/-- What is known of the descriptor with a tag or a branch is what is given. -/
theorem knownValue_marked (there : (tag.isNone && branch.isNone) = false) (saved : Option Record) :
    (options.marked tag branch).knownValue saved .commitDescriptor =
      options.given.commitDescriptor := by
  simp only [knownValue, marked, admitsSaved, there]
  cases given : options.given.commitDescriptor <;> simp [PerField.get, given]

/-- What is known of it without one. -/
theorem knownValue_unmarked {saved : Option Record} (found : options.readSaved read = .ok saved) :
    (options.marked none none).knownValue saved .commitDescriptor =
      options.given.commitDescriptor.or (options.keptDescriptor? read) := by
  rw [keptDescriptor?, found]
  cases given : options.given.commitDescriptor <;>
    simp [knownValue, marked, admitsSaved, PerField.get, given]

/-- Empty marks take nothing away from the evidence but the descriptor that is set aside. -/
theorem toRecord_withMarks (tags : nonEmpty tag = none) (branches : nonEmpty branch = none)
    (there : (tag.isNone && branch.isNone) = false) {saved : Option Record}
    (found : options.readSaved read = .ok saved) (evidence : Evidence) (now : Timestamp) :
    ((options.marked tag branch).withMarks saved evidence).toRecord now =
      match options.keptDescriptor? read with
      | none => ((options.marked none none).withMarks saved evidence).toRecord now
      | some _ =>
          ((options.marked none none).withMarks saved evidence).undescribed.toRecord now := by
  cases kept : options.keptDescriptor? read with
  | none =>
      have known : (options.marked tag branch).knownValue saved .commitDescriptor =
          (options.marked none none).knownValue saved .commitDescriptor := by
        rw [knownValue_marked there, knownValue_unmarked found, kept, Option.or_none]
      rw [withMarks, known]
      exact Evidence.toRecord_congr_marks ((options.marked none none).withMarks saved evidence) tags
        branches now
  | some descriptor =>
      have known : (options.marked tag branch).knownValue saved .commitDescriptor = none := by
        rw [knownValue_marked there, (keptDescriptor?_eq_some_iff.mp kept).1]
      rw [withMarks, known]
      exact Evidence.toRecord_congr_marks
        ((options.marked none none).withMarks saved evidence).undescribed tags branches now

theorem assemble_marked_eq_ok_iff {record : Record} :
    (options.marked tag branch).assemble sources read now = .ok record ↔
      ∃ saved evidence, options.readSaved read = .ok saved ∧
        options.evidence saved sources read = .ok evidence ∧
        ((options.marked tag branch).withMarks saved evidence).toRecord now = .ok record := by
  constructor
  · intro built
    rw [assemble, bind_eq_ok_iff] at built
    obtain ⟨saved, found, built⟩ := built
    rw [evidence_marked, bind_eq_ok_iff] at built
    obtain ⟨marked, known, built⟩ := built
    cases evident : options.evidence saved sources read with
    | error failure =>
        rw [evident] at known
        contradiction
    | ok evidence =>
        rw [evident] at known
        cases known
        exact ⟨saved, evidence, found, evident, mapError_refused_eq_ok_iff.mp built⟩
  · rintro ⟨saved, evidence, found, known, built⟩
    rw [assemble_marked tag branch found known, built]
    rfl

/-- An empty mark counts as missing exactly if no descriptor is set aside for it, or if the same one
is derived. -/
theorem assemble_marked_iff (tag branch : Option String) (tags : nonEmpty tag = none)
    (branches : nonEmpty branch = none)
    (there : (tag.isNone && branch.isNone) = false) :
    (options.marked tag branch).assemble sources read now =
        (options.marked none none).assemble sources read now ↔
      ∀ record, (options.marked none none).assemble sources read now = .ok record →
        ∀ kept, options.keptDescriptor? read = some kept →
          kept = smartDescriptor none none record.commitHash := by
  -- With a descriptor that is set aside, it is the descriptor of the record without marks.
  have descriptor {saved evidence record kept} (found : options.readSaved read = .ok saved)
      (lost : options.keptDescriptor? read = some kept)
      (built : ((options.marked none none).withMarks saved evidence).toRecord now = .ok record) :
      record.commitDescriptor = kept := by
    rw [(Evidence.toRecord_eq_ok_iff.mp built).2.2.2.1, Evidence.commitDescriptor]
    simp only [withMarks]
    rw [knownValue_unmarked found, (keptDescriptor?_eq_some_iff.mp lost).1, lost]
    rfl
  constructor
  · intro same record built kept lost
    obtain ⟨saved, evidence, found, known, drawn⟩ := assemble_marked_eq_ok_iff.mp built
    rw [assemble_marked tag branch found known, assemble_marked none none found known,
      refused_injective, toRecord_withMarks tags branches there found, lost] at same
    rw [← descriptor found lost drawn]
    exact Evidence.toRecord_undescribed_iff.mp same record drawn
  · intro derived
    refine assemble_marked_congr fun saved evidence found known => ?_
    rw [toRecord_withMarks tags branches there found]
    cases lost : options.keptDescriptor? read with
    | none => rfl
    | some kept =>
        refine Evidence.toRecord_undescribed_iff.mpr fun record drawn => ?_
        rw [descriptor found lost drawn]
        exact derived record
          (assemble_marked_eq_ok_iff.mpr ⟨saved, evidence, found, known, drawn⟩) kept lost

/-- For the record of a build an empty tag is no tag and an empty branch no branch, whatever else is
known.  For a command the same holds exactly if no saved descriptor is set aside for the empty tag,
or if there is no record anyway, or if the beginning of the hash is the same descriptor; likewise
for an empty branch. -/
theorem assemble_emptyMarks (options : RecordOptions) (sources : VersionSources)
    (read : TextReader) (now : Timestamp) :
    (∀ evidence : Evidence,
      { evidence with tag := some "" }.toRecord now = { evidence with tag := none }.toRecord now ∧
      { evidence with branch := some "" }.toRecord now =
        { evidence with branch := none }.toRecord now) ∧
    ({ options with tag := some "" }.assemble sources read now =
        { options with tag := none }.assemble sources read now ↔
      (options.branch = none →
        ∀ record, { options with tag := none }.assemble sources read now = .ok record →
        ∀ kept, options.keptDescriptor? read = some kept →
          kept = String.ofList (shortHash record.commitHash.toList))) ∧
    ({ options with branch := some "" }.assemble sources read now =
        { options with branch := none }.assemble sources read now ↔
      (options.tag = none →
        ∀ record, { options with branch := none }.assemble sources read now = .ok record →
        ∀ kept, options.keptDescriptor? read = some kept →
          kept = String.ofList (shortHash record.commitHash.toList))) := by
  refine ⟨fun evidence => ⟨?_, ?_⟩, ?_, ?_⟩
  · exact Evidence.toRecord_congr_marks { evidence with tag := none } rfl rfl now
  · exact Evidence.toRecord_congr_marks { evidence with branch := none } rfl rfl now
  · obtain ⟨given, raw, tag, branch, tagPattern, file, pattern, saved⟩ := options
    cases branch with
    | none =>
        rw [forall_prop_of_true rfl]
        exact assemble_marked_iff (some "") none rfl rfl rfl
    | some name =>
        refine iff_of_true ?_ fun impossible => nomatch impossible
        exact assemble_marked_of_admits (some "") none (some name) (some name) rfl rfl rfl
  · obtain ⟨given, raw, tag, branch, tagPattern, file, pattern, saved⟩ := options
    cases tag with
    | none =>
        rw [forall_prop_of_true rfl]
        exact assemble_marked_iff none (some "") rfl rfl rfl
    | some name =>
        refine iff_of_true ?_ fun impossible => nomatch impossible
        exact assemble_marked_of_admits (some name) (some name) (some "") none rfl rfl rfl

/-! ### A saved descriptor that is lost -/

/-- The record of a build that has a tag. -/
def taggedRecord : Record := ⟨"1", "0123456789", "", "v1", "now"⟩

/-- A command that is given a saved record, and nothing else. -/
def savedOptions : RecordOptions := { empty with savedRecord := some "build.json" }

/-- Sources without any version. -/
def noSources : VersionSources := ⟨none, none, none, none, defaultFilePattern⟩

/-- A file system that holds nothing but the record. -/
def savedReader : TextReader := fun _ => .ok (Record.toValue taggedRecord).compact

/-- The run keeps the saved descriptor, but with an empty tag or an empty branch it derives one from
the hash. -/
theorem assemble_savedOptions_ne :
    savedOptions.assemble noSources savedReader ⟨0⟩ = .ok taggedRecord ∧
      { savedOptions with tag := some "" }.assemble noSources savedReader ⟨0⟩ ≠
        { savedOptions with tag := none }.assemble noSources savedReader ⟨0⟩ ∧
      { savedOptions with branch := some "" }.assemble noSources savedReader ⟨0⟩ ≠
        { savedOptions with branch := none }.assemble noSources savedReader ⟨0⟩ := by
  have saved : Record.ofJson? (Record.toValue taggedRecord).compact = some taggedRecord := by
    decide +kernel
  have found : savedOptions.readSaved savedReader = .ok (some taggedRecord) := by
    simp [readSaved, savedOptions, savedReader, saved]
  have known : savedOptions.evidence (some taggedRecord) noSources savedReader =
      .ok (savedOptions.knownEvidence (some taggedRecord)) := rfl
  have kept : savedOptions.assemble noSources savedReader ⟨0⟩ = .ok taggedRecord :=
    (assemble_marked none none found known ⟨0⟩).trans rfl
  have untagged : { savedOptions with tag := some "" }.assemble noSources savedReader ⟨0⟩ =
      .ok { taggedRecord with commitDescriptor := "0123456" } :=
    (assemble_marked (some "") none found known ⟨0⟩).trans rfl
  have unbranched : { savedOptions with branch := some "" }.assemble noSources savedReader ⟨0⟩ =
      .ok { taggedRecord with commitDescriptor := "0123456" } :=
    (assemble_marked none (some "") found known ⟨0⟩).trans rfl
  refine ⟨kept, fun same => ?_, fun same => ?_⟩
  · exact absurd (Except.ok.inj (untagged.symm.trans (same.trans kept))) (by decide)
  · exact absurd (Except.ok.inj (unbranched.symm.trans (same.trans kept))) (by decide)

end RecordOptions

end Imprint
