import Imprint.Proofs.Rendering.Builtin
import Imprint.Proofs.Stamp.Outcome

/-!
# A pair as a whole

When a pair cannot be written, storage keeps the files that it had, with one exception: a first
half that took the place of something stays when the second half fails.
-/

namespace Imprint.Stamp

open Storage

/-- The first half is written over something that is there, the second half cannot be written, and
nothing else is in the way. -/
structure LeavesHalf (pair : Pair) (directory : String) (options : WriteOptions)
    (memory : Memory) : Prop where
  free : taken? options [pair.target directory .declaration, pair.target directory .definition]
    memory = none
  dryRun : options.dryRun = false
  first : (memory.createDirectories directory).Writable (pair.target directory .declaration)
  second : ¬ (memory.createDirectories directory).Writable (pair.target directory .definition)
  existed : (memory.createDirectories directory).holds (pair.target directory .declaration) = true

variable {pair : Pair} {directory : String} {options : WriteOptions} {memory after : Memory}
  {error : Error}

/-- After a failure the files are the former ones, or those with the first half among them. -/
theorem files_of_failed
    (failed : (writePair pair directory options : Task Memory WrittenPair) memory =
      (.error error, after)) :
    (LeavesHalf pair directory options memory ∧
        after.files =
          (memory.put (pair.target directory .declaration) pair.declaration).files) ∨
      (¬ LeavesHalf pair directory options memory ∧ after.files = memory.files) := by
  have outcome := writePair_outcome pair directory options memory
  rw [failed] at outcome
  cases outcome with
  | refused taken =>
      refine .inr ⟨fun half => ?_, rfl⟩
      rw [half.free] at taken
      contradiction
  | declarationFailed free dryRun unwritable =>
      exact .inr ⟨fun half => unwritable half.first, rfl⟩
  | undone free dryRun first second fresh =>
      refine .inr ⟨fun half => ?_, rfl⟩
      rw [half.existed] at fresh
      contradiction
  | left free dryRun first second existed =>
      exact .inl ⟨⟨free, dryRun, first, second, existed⟩, rfl⟩

namespace LeavesHalf

/-- The pair is not written, and its first half stays. -/
theorem writePair_eq (half : LeavesHalf pair directory options memory) :
    ∃ fault, (writePair pair directory options : Task Memory WrittenPair) memory =
      (.error (.storage (pair.target directory .definition) fault),
        (memory.createDirectories directory).put (pair.target directory .declaration)
          pair.declaration) := by
  have outcome := writePair_outcome pair directory options memory
  rcases run : (writePair pair directory options : Task Memory WrittenPair) memory with
    ⟨result, after⟩
  rw [run] at outcome
  cases outcome with
  | refused taken => exact absurd (half.free.symm.trans taken) (Option.some_ne_none _).symm
  | dry free dryRun => exact absurd (half.dryRun.symm.trans dryRun) Bool.false_ne_true
  | declarationFailed free dryRun unwritable => exact absurd half.first unwritable
  | undone free dryRun first second fresh =>
      exact absurd (fresh.symm.trans half.existed) Bool.false_ne_true
  | left free dryRun first second existed => exact ⟨_, rfl⟩
  | written free dryRun first second => exact absurd second half.second

/-- Unless overwriting is forced, what the first half takes the place of is a directory that has
just been created. -/
theorem mem_prefixesOf (half : LeavesHalf pair directory options memory)
    (unforced : options.force = false) :
    Path.components (pair.target directory .declaration) ∈
      Path.prefixesOf (Path.components directory) := by
  have free := free_of_taken?_eq_none unforced half.free _ List.mem_cons_self
  have existed := half.existed
  rw [Memory.holds_eq_occupied, Memory.occupied_createDirectories] at existed
  rcases existed with before | created
  · exact absurd before (Bool.eq_false_iff.mp free)
  · exact created

end LeavesHalf

/-! ## A half that is left -/

/-- The pair of a record without any fact. -/
def blankPair : Pair :=
  Builtin.c.pairOf (Builtin.c.standardSpellings .smart) Record.empty

/-- Storage with an old first half, in which the second half cannot be written. -/
def halfRejecting : Memory where
  files := [⟨"out/version.h", "old"⟩]
  directories := [[.name "out"]]
  failing := [[.name "out", .name "version.c"]]

theorem leavesHalf_halfRejecting : LeavesHalf blankPair "out" ⟨true, false⟩ halfRejecting := by
  have first : blankPair.target "out" .declaration = "out/version.h" := by rfl
  have second : blankPair.target "out" .definition = "out/version.c" := by rfl
  constructor
  · rfl
  · rfl
  · rw [first]
    decide +kernel
  · rw [second]
    decide +kernel
  · rw [first]
    decide +kernel

/-- The new first half does not begin like the old one. -/
theorem blankPair_declaration_ne : blankPair.declaration ≠ "old" := by
  intro same
  have filled := Skeleton.toList_fill Builtin.c.declaration .c
    (Builtin.c.standardSpellings .smart) Record.empty
  have begins : (Builtin.c.declaration.frame (Builtin.c.standardSpellings .smart)).head.head? =
      some '#' := by
    simp only [Skeleton.frame, frameOf, Frame.prepend, Builtin.c, Skeleton.listing,
      String.toList_append]
    repeat rw [String.toList_ofList]
    rfl
  have first := congrArg List.head? ((congrArg String.toList same).symm.trans filled)
  rw [Frame.fill, List.head?_append, begins, Option.some_or, String.toList_ofList] at first
  exact absurd (Option.some.inj first) (by decide)

/-! ## All or nothing -/

/-- A pair that cannot be written leaves every file as it was, unless half of it is left in the
place of something else with another content. -/
theorem writePair_failed_iff
    (failed : (writePair pair directory options : Task Memory WrittenPair) memory =
      (.error error, after)) :
    (¬ LeavesHalf pair directory options memory → after.files = memory.files) ∧
      ((∀ path, after.read? path = memory.read? path) ↔
        ¬ (LeavesHalf pair directory options memory ∧
          memory.read? (pair.target directory .declaration) ≠ some pair.declaration)) := by
  rcases files_of_failed failed with ⟨half, files⟩ | ⟨whole, files⟩
  · have read (path : String) : after.read? path =
        if Path.components (pair.target directory .declaration) = Path.components path then
          some pair.declaration
        else memory.read? path := by
      rw [Memory.read?, Memory.content?, files]
      exact Memory.content?_put memory _ pair.declaration (Path.components path)
    refine ⟨fun whole => absurd half whole, ?_⟩
    constructor
    · rintro same ⟨-, changed⟩
      have there := (same (pair.target directory .declaration)).symm
      rw [read, if_pos rfl] at there
      exact changed there
    · intro intact path
      have unchanged : memory.read? (pair.target directory .declaration) =
          some pair.declaration :=
        Decidable.byContradiction fun changed => intact ⟨half, changed⟩
      rw [read]
      by_cases here : Path.components (pair.target directory .declaration) = Path.components path
      · rw [if_pos here, ← unchanged, Memory.read?, Memory.read?, here]
      · rw [if_neg here]
  · refine ⟨fun _ => files, ?_⟩
    constructor
    · rintro - ⟨half, -⟩
      exact whole half
    · intro _ path
      rw [Memory.read?, Memory.read?, Memory.content?, Memory.content?, files]

/-- The condition holds where the old first half is lost. -/
theorem writePair_failed_iff_halfRejecting :
    ∃ error after,
      (writePair blankPair "out" ⟨true, false⟩ : Task Memory WrittenPair) halfRejecting =
        (.error error, after) ∧
      (¬ LeavesHalf blankPair "out" ⟨true, false⟩ halfRejecting →
        after.files = halfRejecting.files) ∧
      ((∀ path, after.read? path = halfRejecting.read? path) ↔
        ¬ (LeavesHalf blankPair "out" ⟨true, false⟩ halfRejecting ∧
          halfRejecting.read? (blankPair.target "out" .declaration) ≠
            some blankPair.declaration)) := by
  obtain ⟨fault, run⟩ := leavesHalf_halfRejecting.writePair_eq
  exact ⟨_, _, run, writePair_failed_iff run⟩

/-- A pair that is rendered for the first built-in template is not written, and an old first half
is lost. -/
theorem writePair_halfRejecting :
    Builtin.c.render (.standard .smart) Record.empty = .ok blankPair ∧
      ∃ error after,
        (writePair blankPair "out" ⟨true, false⟩ : Task Memory WrittenPair) halfRejecting =
          (.error error, after) ∧
        after.read? "out/version.h" ≠ halfRejecting.read? "out/version.h" := by
  obtain ⟨fault, run⟩ := leavesHalf_halfRejecting.writePair_eq
  refine ⟨Builtin.c.render_eq_ok (Builtin.spellingsFor_eq_ok List.mem_cons_self .smart) _,
    _, _, run, ?_⟩
  have first : blankPair.target "out" .declaration = "out/version.h" := by rfl
  have old : halfRejecting.read? "out/version.h" = some "old" := by rfl
  rw [old, first, Memory.read?, Memory.content?_put, if_pos rfl]
  exact fun same => blankPair_declaration_ne (Option.some.inj same)

end Imprint.Stamp
