import Imprint.Proofs.Rendering.Consistency
import Imprint.Proofs.Stamp.Outcome
import Imprint.Proofs.Storage.Parent
import Imprint.Proofs.Template.Built

/-!
# Where a pair can be written

Before a pair is written its directory is created, but no directory below it.  So a pair can be
written exactly if the directories that its halves belong into are there or above its own.  A
single file can always be written, since the directory that it belongs into is created.
-/

namespace Imprint

open Storage

namespace Pair

variable {pair : Pair} {directory : String} {memory : Memory} {half : Half}

/-- Whether the directory that one half of a pair belongs into is there, once the directory that
the pair is written into is there. -/
def Placed (pair : Pair) (directory : String) (memory : Memory) (half : Half) : Prop :=
  (Path.components (pair.target directory half)).dropLast <+: Path.components directory ∨
    (Path.components (pair.target directory half)).dropLast ∈ memory.directories

instance (pair : Pair) (directory : String) (memory : Memory) (half : Half) :
    Decidable (pair.Placed directory memory half) :=
  inferInstanceAs (Decidable (_ ∨ _))

theorem hasParent_createDirectories_iff :
    (memory.createDirectories directory).hasParent (pair.target directory half) = true ↔
      pair.Placed directory memory half := by
  rw [Memory.hasParent_iff, Memory.mem_directories_createDirectories, Path.mem_prefixesOf_iff,
    Placed]
  by_cases nothing : (Path.components (pair.target directory half)).dropLast = []
  · rw [nothing]
    exact iff_of_true (.inl rfl) (.inl List.nil_prefix)
  · rw [or_iff_right nothing, and_iff_right nothing, or_comm]

/-- Names without directories lead into the pair's own. -/
theorem placed_of_length_le_one
    (short : (Path.components (pair.files.get half)).length ≤ 1) :
    pair.Placed directory memory half := by
  rw [Placed, target, Path.components_join, Path.inside]
  refine .inl ?_
  split
  · have nothing : (Path.components (pair.files.get half)).dropLast = [] :=
      List.length_eq_zero_iff.mp (by rw [List.length_dropLast]; omega)
    rw [nothing]
    exact List.nil_prefix
  · obtain ⟨piece, others, split⟩ :=
      List.exists_cons_of_ne_nil (Path.splitSlash_ne_nil (pair.files.get half).toList)
    rw [Path.components_eq split, List.length_append] at short
    rw [split]
    cases body : Path.bodyComponents (piece :: others) with
    | nil => exact List.append_nil _ ▸ List.dropLast_prefix _
    | cons name more =>
        rw [body, List.length_cons] at short
        have alone : more = [] := List.length_eq_zero_iff.mp (by omega)
        rw [alone]
        exact List.dropLast_concat ▸ List.prefix_rfl

end Pair

namespace Stamp

variable {pair : Pair} {directory : String} {options : WriteOptions} {memory : Memory}

/-! ## Success -/

theorem taken?_of_forced (forced : options.force = true) (paths : List String) (memory : Memory) :
    taken? options paths memory = none := by
  rw [taken?, if_pos forced]

/-- A pair that is forced is written if both its halves can be. -/
theorem exists_writePair_eq_ok_iff (forced : options.force = true)
    (wet : options.dryRun = false) :
    (∃ written after, (writePair pair directory options : Task Memory WrittenPair) memory =
        (.ok written, after)) ↔
      ∀ half, (memory.createDirectories directory).Writable (pair.target directory half) := by
  have outcome := writePair_outcome pair directory options memory
  rcases run : (writePair pair directory options : Task Memory WrittenPair) memory with
    ⟨result, after⟩
  rw [run] at outcome
  cases outcome with
  | refused taken => rw [taken?_of_forced forced] at taken; contradiction
  | dry free dryRun => exact absurd (wet.symm.trans dryRun) Bool.false_ne_true
  | declarationFailed free dryRun unwritable =>
      exact iff_of_false (by rintro ⟨_, _, ⟨⟩⟩) fun writable => unwritable (writable .declaration)
  | undone free dryRun first second fresh =>
      exact iff_of_false (by rintro ⟨_, _, ⟨⟩⟩) fun writable => second (writable .definition)
  | left free dryRun first second existed =>
      exact iff_of_false (by rintro ⟨_, _, ⟨⟩⟩) fun writable => second (writable .definition)
  | written free dryRun first second =>
      refine iff_of_true ⟨_, _, rfl⟩ fun half => ?_
      cases half with
      | declaration => exact first
      | definition => exact second

/-- Where no path fails, only missing directories keep a pair from being written. -/
theorem exists_writePair_eq_ok_iff_placed (forced : options.force = true)
    (wet : options.dryRun = false) (reliable : memory.failing = []) :
    (∃ written after, (writePair pair directory options : Task Memory WrittenPair) memory =
        (.ok written, after)) ↔
      ∀ half, pair.Placed directory memory half := by
  rw [exists_writePair_eq_ok_iff forced wet]
  refine forall_congr' fun half => ?_
  have accepted : (memory.createDirectories directory).failing.contains
      (Path.components (pair.target directory half)) = false := by
    rw [Memory.createDirectories, reliable]
    rfl
  rw [Memory.Writable, and_iff_right accepted, Pair.hasParent_createDirectories_iff]

theorem hasParent_withParent (path : String) (memory : Memory) :
    (withParent path memory).hasParent path = true := by
  rw [Memory.hasParent_iff]
  by_cases nothing : (Path.components path).dropLast = []
  · exact .inl nothing
  · refine .inr ?_
    rw [withParent]
    split
    case h_1 parent found =>
      have above := Path.components_parent? found
      have named : ¬ parent.isEmpty = true := by
        intro blank
        rw [String.isEmpty_iff.mp blank] at above
        exact nothing above.symm
      rw [if_neg named, Memory.mem_directories_createDirectories, above]
      exact .inr (Path.mem_prefixesOf_self nothing)
    case h_2 topmost =>
      exact absurd (Path.dropLast_components_of_parent?_eq_none topmost) nothing

theorem failing_withParent (path : String) (memory : Memory) :
    (withParent path memory).failing = memory.failing := by
  rw [withParent]
  split
  · split <;> rfl
  · rfl

/-- Where no path fails, a file that is forced is written wherever it belongs. -/
theorem exists_writeFile_eq_ok (forced : options.force = true) (wet : options.dryRun = false)
    (reliable : memory.failing = []) (path content : String) :
    ∃ written after, (writeFile path content options : Task Memory WrittenFile) memory =
      (.ok written, after) := by
  have writable : (withParent path memory).Writable path := by
    refine ⟨?_, hasParent_withParent path memory⟩
    rw [failing_withParent, reliable]
    rfl
  have outcome := writeFile_outcome path content options memory
  rcases run : (writeFile path content options : Task Memory WrittenFile) memory with
    ⟨result, after⟩
  rw [run] at outcome
  cases outcome with
  | refused taken => rw [taken?_of_forced forced] at taken; contradiction
  | dry free dryRun => exact absurd (wet.symm.trans dryRun) Bool.false_ne_true
  | failed free dryRun unwritable => exact absurd writable unwritable
  | written free dryRun writable => exact ⟨_, _, rfl⟩

/-! ## Names with directories -/

/-- A template whose halves belong into different directories. -/
def nestedTemplate : Template :=
  plainTemplate .snake ⟨"include/info.h", "src/info.c"⟩ Overrides.none

theorem build_nestedTemplate :
    (plainDraft .snake nestedTemplate.files Overrides.none).build = .ok nestedTemplate :=
  build_plainDraft (by decide +kernel) (by decide +kernel)

/-- The pair of a record without any fact. -/
def nestedPair : Pair :=
  nestedTemplate.pairOf (nestedTemplate.standardSpellings .smart) Record.empty

theorem render_nestedTemplate :
    nestedTemplate.render (.standard .smart) Record.empty = .ok nestedPair :=
  Template.render_eq_ok
    ((Draft.builds_of_build_eq_ok build_nestedTemplate).spellingsFor_eq_ok .smart) _

/-- Where no path fails, a pair that is forced is written exactly if the directories of its halves
are there or above its own, and always if its names have no directories.  A file that is forced is
written in any case. -/
theorem writePair_ok_iff_placed (forced : options.force = true) (wet : options.dryRun = false)
    (reliable : memory.failing = []) :
    ((∃ written after, (writePair pair directory options : Task Memory WrittenPair) memory =
        (.ok written, after)) ↔
      ∀ half, pair.Placed directory memory half) ∧
    ((∀ half, (Path.components (pair.files.get half)).length ≤ 1) →
      ∃ written after, (writePair pair directory options : Task Memory WrittenPair) memory =
        (.ok written, after)) ∧
    ∀ path content,
      ∃ written after, (writeFile path content options : Task Memory WrittenFile) memory =
        (.ok written, after) := by
  have placed := @exists_writePair_eq_ok_iff_placed pair directory options memory forced wet reliable
  refine ⟨placed, fun short => placed.mpr fun half => ?_, ?_⟩
  · exact Pair.placed_of_length_le_one (short half)
  · exact exists_writeFile_eq_ok forced wet reliable

/-- Storage with one of the two directories that the pair needs. -/
def withInclude : Memory := Memory.empty.createDirectories "out/include"

/-- The pair still cannot be written. -/
theorem writePair_ok_iff_placed_nestedPair :
    (⟨true, false⟩ : WriteOptions).force = true ∧ (⟨true, false⟩ : WriteOptions).dryRun = false ∧
      withInclude.failing = [] ∧
      ((∃ written after, (writePair nestedPair "out" ⟨true, false⟩ : Task Memory WrittenPair)
            withInclude = (.ok written, after)) ↔
        ∀ half, nestedPair.Placed "out" withInclude half) ∧
      ¬ nestedPair.Placed "out" withInclude .definition ∧
      ∃ written after, (writeFile (nestedPair.target "out" .definition) nestedPair.definition
        ⟨true, false⟩ : Task Memory WrittenFile) withInclude = (.ok written, after) := by
  have placed := @writePair_ok_iff_placed nestedPair "out" ⟨true, false⟩ withInclude rfl rfl rfl
  have target : nestedPair.target "out" .definition = "out/src/info.c" := by rfl
  refine ⟨rfl, rfl, rfl, placed.1, ?_, placed.2.2 _ _⟩
  rw [Pair.Placed, target]
  decide +kernel

/-- A built template renders a pair that cannot be written into a new directory, while each of its
halves can be written as a file. -/
theorem writePair_nestedPair :
    (plainDraft .snake nestedTemplate.files Overrides.none).build = .ok nestedTemplate ∧
      nestedTemplate.render (.standard .smart) Record.empty = .ok nestedPair ∧
      (¬ ∃ written after, (writePair nestedPair "out" ⟨true, false⟩ : Task Memory WrittenPair)
        Memory.empty = (.ok written, after)) ∧
      ∀ half, ∃ written after, (writeFile (nestedPair.target "out" half) (nestedPair.text half)
        ⟨true, false⟩ : Task Memory WrittenFile) Memory.empty = (.ok written, after) := by
  refine ⟨build_nestedTemplate, render_nestedTemplate, fun done => ?_, fun half =>
    exists_writeFile_eq_ok rfl rfl rfl _ _⟩
  have placed := (exists_writePair_eq_ok_iff_placed rfl rfl rfl).mp done .declaration
  have target : nestedPair.target "out" .declaration = "out/include/info.h" := by rfl
  rw [Pair.Placed, target] at placed
  exact absurd placed (by decide +kernel)

end Stamp

end Imprint
