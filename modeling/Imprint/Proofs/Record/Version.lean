import Imprint.Proofs.Pattern.Search
import Imprint.Version

/-!
# Versions that are found by default

The two patterns that are used unless others are given.  Main statement: a tag has a version exactly
if it is one, with or without the letter in front, and a file has the version that stands on the
first labelled line.
-/

namespace Imprint

open Pattern (capturedRun literally placeAfter)

/-- The characters of a version. -/
def isVersionChar (c : Char) : Bool := c.isDigit || c == '.'

/-- Whether a text is a version: digits and dots, and not empty. -/
def IsVersion (text : List Char) : Prop := text ≠ [] ∧ ∀ c ∈ text, isVersionChar c = true

/-- The label of a version in a file. -/
def versionLabel : String := "Version: "

/-- Whether a labelled version stands at a position of a text, with the end of a line behind it. -/
def LabelledAt (text : List Char) (position : Nat) (version : List Char) : Prop :=
  IsVersion version ∧ versionLabel.toList ++ version ++ ['\n'] <+: text.drop position

/-- The digits and dots of the notation of patterns. -/
def versionClass : CharClass := .union [.between '0' '9', (· == '.')]

theorem versionClass_eq (c : Char) : versionClass c = isVersionChar c := by
  simp [versionClass, CharClass.union, CharClass.between, isVersionChar, Char.isDigit, Char.le_def]

variable {text version other passed rest : List Char}

theorem isVersion_iff :
    IsVersion version ↔ version ≠ [] ∧ ∀ c ∈ version, versionClass c = true := by
  simp [IsVersion, versionClass_eq]

/-- The first character of a version is one of its characters. -/
theorem IsVersion.head {c : Char} (cited : IsVersion (c :: version)) : isVersionChar c = true :=
  cited.2 c List.mem_cons_self

/-- A version that the end of the line follows is all that stands before it. -/
theorem IsVersion.takeWhile_append_lineBreak (cited : IsVersion version) (rest : List Char) :
    (version ++ '\n' :: rest).takeWhile isVersionChar = version := by
  have stops : ('\n' :: rest).takeWhile isVersionChar = [] := rfl
  rw [List.takeWhile_append_of_pos cited.2, stops, List.append_nil]

/-! ## What a pattern captures -/

/-- What the first group of a pattern captures, in terms of what has been passed over and of what
comes next. -/
structure Pattern.Captures (pattern : Pattern)
    (found : List Char → List Char → List Char → Prop) : Prop where
  sound : ∀ {passed rest next}, next ∈ pattern.ends (placeAfter none passed rest) →
    ∃ version, next.captured = some version ∧ found passed rest version
  complete : ∀ {passed rest version}, found passed rest version →
    pattern.ends (placeAfter none passed rest) ≠ []
  unique : ∀ {passed rest version other}, found passed rest version → found passed rest other →
    version = other

namespace Pattern.Captures

variable {pattern : Pattern} {found : List Char → List Char → List Char → Prop}

theorem ends_eq_nil_iff (captures : pattern.Captures found) :
    pattern.ends (placeAfter none passed rest) = [] ↔ ∀ version, ¬ found passed rest version := by
  constructor
  · intro none version here
    exact captures.complete here none
  · intro none
    by_contra some
    obtain ⟨next, listed⟩ := List.exists_mem_of_ne_nil _ some
    obtain ⟨version, -, here⟩ := captures.sound listed
    exact none version here

/-- Nothing is captured if the pattern matches nowhere. -/
theorem firstCapture?_eq_none_iff (captures : pattern.Captures found) {text : String} :
    pattern.firstCapture? text = none ↔
      ∀ passed rest, text.toList = passed ++ rest → ∀ version, ¬ found passed rest version := by
  simp only [← captures.ends_eq_nil_iff, ← search_eq_none_iff]
  rw [firstCapture?, Option.map_eq_none_iff]
  cases searched : pattern.search none text.toList with
  | none => simp
  | some place =>
      obtain ⟨passed, rest, -, here, -⟩ := search_eq_some_iff.mp searched
      obtain ⟨version, captured, -⟩ := captures.sound (List.mem_of_head? here)
      simp [captured]

/-- The version that is captured is the one at the leftmost match. -/
theorem firstCapture?_eq_some_iff (captures : pattern.Captures found) {text version : String} :
    pattern.firstCapture? text = some version ↔
      ∃ passed rest, text.toList = passed ++ rest ∧ found passed rest version.toList ∧
        ∀ earlier later, text.toList = earlier ++ later → earlier.length < passed.length →
          ∀ other, ¬ found earlier later other := by
  simp only [← captures.ends_eq_nil_iff]
  rw [firstCapture?, Option.map_eq_some_iff]
  constructor
  · rintro ⟨captured, bound, rfl⟩
    obtain ⟨place, searched, same⟩ := Option.bind_eq_some_iff.mp bound
    obtain ⟨passed, rest, split, here, leftmost⟩ := search_eq_some_iff.mp searched
    obtain ⟨version, kept, finds⟩ := captures.sound (List.mem_of_head? here)
    rw [same] at kept
    cases kept
    exact ⟨passed, rest, split, by rwa [String.toList_ofList], leftmost⟩
  · rintro ⟨passed, rest, split, finds, leftmost⟩
    obtain ⟨first, others, listed⟩ := List.exists_cons_of_ne_nil (captures.complete finds)
    have head : (pattern.ends (placeAfter none passed rest)).head? = some first := by
      rw [listed, List.head?_cons]
    obtain ⟨captured, kept, finds'⟩ := captures.sound (List.mem_of_head? head)
    refine ⟨version.toList, ?_, String.ofList_toList⟩
    rw [search_eq_some_iff.mpr ⟨passed, rest, split, head, leftmost⟩, Option.bind_some, kept,
      captures.unique finds' finds]

end Pattern.Captures

/-! ## The pattern for tags -/

/-- The pattern that is written for tags. -/
def tagVersionPattern : Pattern :=
  .seq (.edge .textStart) (.seq (.either (.char (· == 'v')) .empty)
    (capturedRun versionClass (.edge .textEnd)))

theorem parse?_defaultTagPattern : Pattern.parse? defaultTagPattern = some tagVersionPattern := by
  cbv

/-- A tag is a version behind an optional letter. -/
theorem captures_tagVersionPattern :
    tagVersionPattern.Captures fun passed rest version =>
      passed = [] ∧ IsVersion version ∧ (rest = version ∨ rest = 'v' :: version) where
  sound := by
    intro passed rest next listed
    obtain ⟨start, reached, goes⟩ := Pattern.exists_of_mem_ends_seq listed
    obtain ⟨rfl, first⟩ := Pattern.mem_ends_edge_iff.mp reached
    have beginning : passed = [] := by
      rw [← List.getLast?_eq_none_iff]
      simpa [Edge.holds, placeAfter] using first
    obtain ⟨middle, reached, goes⟩ := Pattern.exists_of_mem_ends_seq goes
    obtain ⟨run, rest', before, filled, all, same, goes⟩ :=
      Pattern.exists_of_mem_ends_capturedRun goes
    obtain ⟨rfl, last⟩ := Pattern.mem_ends_edge_iff.mp goes
    obtain rfl : rest' = [] := by simpa [Edge.holds] using last
    rw [List.append_nil] at same
    refine ⟨run, rfl, beginning, isVersion_iff.mpr ⟨filled, all⟩, ?_⟩
    rw [Pattern.ends_optional_char, List.mem_append, List.mem_singleton] at reached
    rcases reached with behind | rfl
    · obtain ⟨c, later, there, letter, rfl⟩ := Pattern.mem_ends_char_iff.mp behind
      rw [eq_of_beq letter] at there
      exact .inr (there.trans (congrArg ('v' :: ·) same))
    · exact .inl same
  complete := by
    rintro _ rest version ⟨rfl, cited, here⟩
    obtain ⟨filled, all⟩ := isVersion_iff.mp cited
    have run (start : Place) (same : start.rest = version) :
        (capturedRun versionClass (.edge .textEnd)).ends start ≠ [] := by
      refine Pattern.ends_capturedRun_ne_nil [] filled all ?_ fun before => ?_
      · exact same.trans (List.append_nil version).symm
      · simp [Pattern.ends, Edge.holds]
    refine Pattern.ends_seq_ne_nil _ (Pattern.mem_ends_edge_iff.mpr ⟨rfl, rfl⟩) ?_
    rcases here with rfl | rfl
    · refine Pattern.ends_seq_ne_nil (placeAfter none [] rest) ?_ (run _ rfl)
      rw [Pattern.ends_optional_char]
      exact List.mem_append_right _ List.mem_cons_self
    · refine Pattern.ends_seq_ne_nil ⟨some 'v', version, none⟩ ?_ (run _ rfl)
      rw [Pattern.ends_optional_char]
      exact List.mem_append_left _ (Pattern.mem_ends_char_iff.mpr ⟨'v', version, rfl, rfl, rfl⟩)
  unique := by
    rintro _ rest version other ⟨-, cited, here⟩ ⟨-, cited', here'⟩
    rcases here with rfl | rfl <;> rcases here' with same | same
    · exact same
    · subst same
      exact absurd cited.head (by decide)
    · subst same
      exact absurd cited'.head (by decide)
    · exact List.tail_eq_of_cons_eq same

/-! ## The pattern for files -/

/-- The pattern that is written for files. -/
def fileVersionPattern : Pattern :=
  literally versionLabel.toList (capturedRun versionClass (.char (· == '\n')))

theorem parse?_defaultFilePattern :
    Pattern.parse? defaultFilePattern = some fileVersionPattern := by
  cbv

/-- What a file is searched for is a version on a line behind the label. -/
theorem captures_fileVersionPattern :
    fileVersionPattern.Captures fun _ rest version =>
      IsVersion version ∧ versionLabel.toList ++ version ++ ['\n'] <+: rest where
  sound := by
    intro passed rest next listed
    obtain ⟨behind, before, same, goes⟩ := Pattern.exists_of_mem_ends_literally listed
    obtain ⟨run, rest', before', filled, all, same', goes⟩ :=
      Pattern.exists_of_mem_ends_capturedRun goes
    obtain ⟨c, later, lineEnd, accepted, rfl⟩ := Pattern.mem_ends_char_iff.mp goes
    refine ⟨run, rfl, isVersion_iff.mpr ⟨filled, all⟩, later, ?_⟩
    dsimp only at same' lineEnd
    rw [placeAfter] at same
    dsimp only at same
    rw [same, same', lineEnd, eq_of_beq accepted]
    simp
  complete := by
    rintro passed rest version ⟨cited, later, rfl⟩
    obtain ⟨filled, all⟩ := isVersion_iff.mp cited
    refine Pattern.ends_literally_ne_nil (version ++ '\n' :: later) ?_ fun before => ?_
    · simp [placeAfter]
    · refine Pattern.ends_capturedRun_ne_nil ('\n' :: later) filled all rfl fun before => ?_
      simp [Pattern.ends, Place.advance]
  unique := by
    rintro passed rest version other ⟨cited, later, rfl⟩ ⟨cited', later', same⟩
    simp only [List.append_assoc, List.append_cancel_left_eq, List.singleton_append] at same
    rw [← cited.takeWhile_append_lineBreak later, ← same, cited'.takeWhile_append_lineBreak later']

/-! ## The versions -/

section Patterns

variable {pattern : String} {parsed : Pattern} {origin text version : String}

theorem extractVersion_eq (origin text : String) (read : Pattern.parse? pattern = some parsed)
    (groups : parsed.groupCount ≠ 0) :
    extractVersion origin text pattern =
      match parsed.firstCapture? text with
      | some version => .ok version
      | none => .error (.noVersion origin pattern) := by
  rw [extractVersion, read]
  exact (if_neg groups).trans (by cases parsed.firstCapture? text <;> rfl)

theorem extractVersion_eq_ok_iff (read : Pattern.parse? pattern = some parsed)
    (groups : parsed.groupCount ≠ 0) :
    extractVersion origin text pattern = .ok version ↔
      parsed.firstCapture? text = some version := by
  rw [extractVersion_eq origin text read groups]
  cases parsed.firstCapture? text <;> simp

theorem extractVersion_eq_error_iff (read : Pattern.parse? pattern = some parsed)
    (groups : parsed.groupCount ≠ 0) :
    extractVersion origin text pattern = .error (.noVersion origin pattern) ↔
      parsed.firstCapture? text = none := by
  rw [extractVersion_eq origin text read groups]
  cases parsed.firstCapture? text <;> simp

end Patterns

/-- What has been passed over is the text before the position, and what comes next the text behind
it. -/
theorem labelledAt_length (split : text = passed ++ rest) :
    LabelledAt text passed.length version ↔
      IsVersion version ∧ versionLabel.toList ++ version ++ ['\n'] <+: rest := by
  rw [LabelledAt, split, List.drop_left]

/-- A labelled version stands within the text. -/
theorem LabelledAt.exists_split {position : Nat} (labelled : LabelledAt text position version) :
    ∃ passed rest, text = passed ++ rest ∧ passed.length = position := by
  refine ⟨text.take position, text.drop position, (List.take_append_drop _ _).symm, ?_⟩
  rw [List.length_take, Nat.min_eq_left]
  by_contra beyond
  obtain ⟨-, later, same⟩ := labelled
  rw [List.drop_of_length_le (Nat.le_of_not_le beyond)] at same
  exact absurd same (by simp [versionLabel])

/-- With the default patterns, a tag has a version exactly if it is a version itself or the letter
`v` with a version behind it, and a file has the version of the first place where a version stands
between the label and the end of a line.  Otherwise it is reported that there is no version. -/
theorem extractVersion_default (origin : String) :
    (∀ tag version : String,
      extractVersion origin tag defaultTagPattern = .ok version ↔
        IsVersion version.toList ∧ (tag = version ∨ tag = "v" ++ version)) ∧
    (∀ tag : String,
      extractVersion origin tag defaultTagPattern = .error (.noVersion origin defaultTagPattern) ↔
        ¬ ∃ version : String,
          IsVersion version.toList ∧ (tag = version ∨ tag = "v" ++ version)) ∧
    (∀ content version : String,
      extractVersion origin content defaultFilePattern = .ok version ↔
        ∃ position, LabelledAt content.toList position version.toList ∧
          ∀ earlier < position, ∀ other, ¬ LabelledAt content.toList earlier other) ∧
    ∀ content : String,
      extractVersion origin content defaultFilePattern =
          .error (.noVersion origin defaultFilePattern) ↔
        ∀ position version, ¬ LabelledAt content.toList position version := by
  have groups : tagVersionPattern.groupCount ≠ 0 := by decide
  have fileGroups : fileVersionPattern.groupCount ≠ 0 := by decide
  have written (tag version : String) :
      (tag.toList = version.toList ∨ tag.toList = 'v' :: version.toList) ↔
        (tag = version ∨ tag = "v" ++ version) := by
    have lettered : tag = "v" ++ version ↔ tag.toList = 'v' :: version.toList := by
      rw [← String.toList_inj, String.toList_append]
      rfl
    rw [String.toList_inj, lettered]
  refine ⟨fun tag version => ?_, fun tag => ?_, fun content version => ?_, fun content => ?_⟩
  · rw [extractVersion_eq_ok_iff parse?_defaultTagPattern groups,
      captures_tagVersionPattern.firstCapture?_eq_some_iff, ← written]
    constructor
    · rintro ⟨_, rest, split, ⟨rfl, cited, here⟩, -⟩
      rw [split]
      exact ⟨cited, here⟩
    · rintro ⟨cited, here⟩
      exact ⟨[], tag.toList, rfl, ⟨rfl, cited, here⟩, fun earlier later same less =>
        absurd less (Nat.not_lt_zero _)⟩
  · rw [extractVersion_eq_error_iff parse?_defaultTagPattern groups,
      captures_tagVersionPattern.firstCapture?_eq_none_iff]
    constructor
    · rintro none ⟨version, cited, here⟩
      exact none [] tag.toList rfl version.toList ⟨rfl, cited, (written tag version).mpr here⟩
    · rintro none _ rest split version ⟨rfl, cited, here⟩
      refine none ⟨String.ofList version, ?_⟩
      rw [← written, String.toList_ofList, split]
      exact ⟨cited, here⟩
  · rw [extractVersion_eq_ok_iff parse?_defaultFilePattern fileGroups,
      captures_fileVersionPattern.firstCapture?_eq_some_iff]
    constructor
    · rintro ⟨passed, rest, split, labelled, leftmost⟩
      refine ⟨passed.length, (labelledAt_length split).mpr labelled, ?_⟩
      intro earlier less other found
      obtain ⟨before, later, same, rfl⟩ := found.exists_split
      exact leftmost before later same less other ((labelledAt_length same).mp found)
    · rintro ⟨position, labelled, first⟩
      obtain ⟨passed, rest, split, rfl⟩ := labelled.exists_split
      refine ⟨passed, rest, split, (labelledAt_length split).mp labelled, ?_⟩
      intro earlier later same less other found
      exact first earlier.length less other ((labelledAt_length same).mpr found)
  · rw [extractVersion_eq_error_iff parse?_defaultFilePattern fileGroups,
      captures_fileVersionPattern.firstCapture?_eq_none_iff]
    constructor
    · intro none position version labelled
      obtain ⟨passed, rest, split, rfl⟩ := labelled.exists_split
      exact none passed rest split version ((labelledAt_length split).mp labelled)
    · intro none passed rest split version labelled
      exact none passed.length version ((labelledAt_length split).mpr labelled)

/-- A label with white space behind the version does not count. -/
example :
    extractVersion "README" "Version: 1.2 \nVersion: 1.3\n" defaultFilePattern = .ok "1.3" := by
  cbv

end Imprint
