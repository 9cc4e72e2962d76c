import Imprint.Proofs.Stamp.Pair
import Imprint.Proofs.Storage.Path
import Imprint.Proofs.Template.Built

/-!
# Reading a written pair

A definition that has been written can be read back, and so can the declaration unless both went
to one place.  Two different file names can lead to one place, since names are compared as texts
and places by their components.
-/

namespace Imprint

open Storage

/-! ## Pairs with one place -/

namespace Pair

variable {pair : Pair} {directory : String}

/-- Whether both halves of a pair belong into one place of a directory. -/
def Overlaps (pair : Pair) (directory : String) : Prop :=
  Path.inside directory pair.files.declaration = Path.inside directory pair.files.definition

instance (pair : Pair) (directory : String) : Decidable (pair.Overlaps directory) :=
  inferInstanceAs (Decidable (_ = _))

theorem overlaps_iff :
    pair.Overlaps directory ↔
      Path.components (pair.target directory .declaration) =
        Path.components (pair.target directory .definition) := by
  rw [target, target, Path.components_join, Path.components_join]
  rfl

/-- Relative names overlap in every directory or in none. -/
theorem overlaps_iff_of_relative (nonempty : directory ≠ "")
    (relative : ∀ half, Path.isAbsolute (pair.files.get half) = false) :
    pair.Overlaps directory ↔
      Path.bodyComponents (Path.splitSlash pair.files.declaration.toList) =
        Path.bodyComponents (Path.splitSlash pair.files.definition.toList) :=
  Path.inside_eq_inside_iff nonempty (relative .declaration) (relative .definition)

end Pair

namespace Stamp

variable {pair : Pair} {directory : String} {options : WriteOptions} {memory after : Memory}
  {written : WrittenPair}

/-! ### Two names for one place -/

/-- A template whose file names are different texts for one place. -/
def overlappingTemplate : Template :=
  plainTemplate .snake ⟨"info.txt", "./info.txt"⟩ Overrides.none

theorem build_overlappingTemplate :
    (plainDraft .snake overlappingTemplate.files Overrides.none).build =
      .ok overlappingTemplate :=
  build_plainDraft (by decide +kernel) (by decide +kernel)

/-- The pair of a record without any fact. -/
def overlappingPair : Pair :=
  overlappingTemplate.pairOf (overlappingTemplate.standardSpellings .smart) Record.empty

theorem render_overlappingTemplate :
    overlappingTemplate.render (.standard .smart) Record.empty = .ok overlappingPair :=
  Template.render_eq_ok
    ((Draft.builds_of_build_eq_ok build_overlappingTemplate).spellingsFor_eq_ok .smart) _

/-- The pair overlaps wherever it is written. -/
theorem overlaps_overlappingPair {directory : String} (nonempty : directory ≠ "") :
    overlappingPair.Overlaps directory := by
  have relative (half : Half) :
      Path.isAbsolute (overlappingPair.files.get half) = false := by
    cases half <;> decide +kernel
  rw [Pair.overlaps_iff_of_relative nonempty relative]
  decide +kernel

theorem overlappingPair_declaration_ne :
    overlappingPair.declaration ≠ overlappingPair.definition := by
  decide +kernel

/-- Storage with a file in the directory that the pair is written into. -/
def besideNotes : Memory where
  files := [⟨"out/notes.txt", "old"⟩]
  directories := [[.name "out"]]
  failing := []

theorem writePair_overlappingPair :
    ∃ written after,
      (writePair overlappingPair "out" ⟨true, false⟩ : Task Memory WrittenPair) besideNotes =
        (.ok written, after) := by
  refine ⟨⟨"plain", "out/info.txt", "out/./info.txt", true⟩, _, Prod.ext ?_ rfl⟩
  decide +kernel

/-! ## What is there afterwards -/

/-- A pair that is not written dry is put where it belongs, the definition last. -/
theorem PairOutcome.eq_of_ok {declaration definition : String} {made : Memory}
    (wet : options.dryRun = false)
    (outcome : PairOutcome pair declaration definition options memory made (.ok written) after) :
    written = ⟨pair.language, declaration, definition, true⟩ ∧
      after = (made.put declaration pair.declaration).put definition pair.definition := by
  cases outcome with
  | dry free dryRun => exact absurd (wet.symm.trans dryRun) Bool.false_ne_true
  | written free dryRun first second => exact ⟨rfl, rfl⟩

/-- What is under some components once a pair has been written. -/
theorem content?_of_writePair_eq_ok (wet : options.dryRun = false)
    (done : (writePair pair directory options : Task Memory WrittenPair) memory =
      (.ok written, after)) :
    written = ⟨pair.language, pair.target directory .declaration,
        pair.target directory .definition, true⟩ ∧
      ∀ key, after.content? key =
        if Path.components (pair.target directory .definition) = key then some pair.definition
        else if Path.components (pair.target directory .declaration) = key then
          some pair.declaration
        else memory.content? key := by
  have outcome := writePair_outcome pair directory options memory
  rw [done] at outcome
  obtain ⟨rfl, rfl⟩ := outcome.eq_of_ok wet
  refine ⟨rfl, fun key => ?_⟩
  rw [Memory.content?_put, Memory.content?_put, Memory.content?_createDirectories]

/-! ## Reading back -/

/-- After a pair has been written, its definition can be read back and all other files are as they
were.  Its declaration can be read back unless both halves belong into one place and have
different texts. -/
theorem read?_of_writePair_eq_ok (wet : options.dryRun = false)
    (done : (writePair pair directory options : Task Memory WrittenPair) memory =
      (.ok written, after)) :
    written.written = true ∧
      after.read? written.definition = some pair.definition ∧
      (after.read? written.declaration = some pair.declaration ↔
        ¬ (pair.Overlaps directory ∧ pair.declaration ≠ pair.definition)) ∧
      ∀ path, Path.components path ≠ Path.components written.declaration →
        Path.components path ≠ Path.components written.definition →
        after.read? path = memory.read? path := by
  obtain ⟨rfl, content⟩ := content?_of_writePair_eq_ok wet done
  refine ⟨rfl, ?_, ?_, fun path noDeclaration noDefinition => ?_⟩
  · rw [Memory.read?, content, if_pos rfl]
  · rw [Memory.read?, content, Pair.overlaps_iff]
    by_cases shared : Path.components (pair.target directory .declaration) =
        Path.components (pair.target directory .definition)
    · rw [if_pos shared.symm, Option.some_inj]
      constructor
      · rintro same ⟨-, different⟩
        exact different same.symm
      · intro apart
        by_contra different
        exact apart ⟨shared, fun same => different same.symm⟩
    · rw [if_neg fun same => shared same.symm, if_pos rfl]
      exact iff_of_true rfl fun overlap => shared overlap.1
  · rw [Memory.read?, content, if_neg noDefinition.symm, if_neg noDeclaration.symm]
    rfl

/-- The new pair overlaps, and an old file beside it stays. -/
theorem read?_of_writePair_eq_ok_overlappingPair :
    ∃ written after,
      (writePair overlappingPair "out" ⟨true, false⟩ : Task Memory WrittenPair) besideNotes =
        (.ok written, after) ∧
      written.written = true ∧
      after.read? written.definition = some overlappingPair.definition ∧
      (after.read? written.declaration = some overlappingPair.declaration ↔
        ¬ (overlappingPair.Overlaps "out" ∧
          overlappingPair.declaration ≠ overlappingPair.definition)) ∧
      ∀ path, Path.components path ≠ Path.components written.declaration →
        Path.components path ≠ Path.components written.definition →
        after.read? path = besideNotes.read? path := by
  obtain ⟨written, after, done⟩ := writePair_overlappingPair
  exact ⟨written, after, done, read?_of_writePair_eq_ok rfl done⟩

/-- A built template renders a pair that is written, and its declaration is lost. -/
theorem read?_declaration_overlappingPair :
    (plainDraft .snake overlappingTemplate.files Overrides.none).build =
        .ok overlappingTemplate ∧
      overlappingTemplate.render (.standard .smart) Record.empty = .ok overlappingPair ∧
      ∃ written after,
        (writePair overlappingPair "out" ⟨true, false⟩ : Task Memory WrittenPair) besideNotes =
          (.ok written, after) ∧
        after.read? written.declaration ≠ some overlappingPair.declaration := by
  obtain ⟨written, after, done⟩ := writePair_overlappingPair
  refine ⟨build_overlappingTemplate, render_overlappingTemplate, written, after, done, ?_⟩
  obtain ⟨rfl, content⟩ := content?_of_writePair_eq_ok rfl done
  have named : "out" ≠ "" := by decide
  have shared := Pair.overlaps_iff.mp (overlaps_overlappingPair named)
  rw [Memory.read?, content, shared, if_pos rfl, Ne, Option.some_inj]
  exact fun same => overlappingPair_declaration_ne same.symm

end Stamp

end Imprint
