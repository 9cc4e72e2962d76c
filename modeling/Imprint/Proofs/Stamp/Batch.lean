import Imprint.Proofs.Stamp.Pair
import Mathlib.Data.List.Forall2

/-!
# Refused batches

A batch is checked against storage as it is before the first write, and each of its steps against
storage as the steps before have left it.  A step that is refused for the sake of an earlier one
comes too late: what the earlier ones have written stays.  A batch whose targets do not get in
each other's way is refused as a whole or not at all.
-/

namespace Imprint.Stamp

open Storage

/-! ## Where a batch writes -/

/-- The paths that a step writes and the directory that it creates for them. -/
structure Site where
  targets : List String
  directory : List Component
  deriving DecidableEq

namespace Site

/-- Where a pair is written. -/
def ofPair (pair : Pair) (directory : String) : Site where
  targets := [pair.target directory .declaration, pair.target directory .definition]
  directory := Path.components directory

/-- Where an export is written. -/
def ofExport (file : Export) : Site where
  targets := [file.path]
  directory := ((Path.parent? file.path).map Path.components).getD []

/-- The places that are taken once a step is done. -/
def occupied (site : Site) : List (List Component) :=
  Path.prefixesOf site.directory ++ site.targets.map Path.components

end Site

/-- Whether a target of a step is in the place of something that is there or that the steps before
it write. -/
def ClashesAfter (seen : List (List Component)) (sites : List Site) (index : Nat) : Prop :=
  ∃ site, sites[index]? = some site ∧
    ∃ target ∈ site.targets,
      Path.components target ∈ seen ++ (sites.take index).flatMap Site.occupied

theorem clashesAfter_zero {seen : List (List Component)} {site : Site} {sites : List Site} :
    ClashesAfter seen (site :: sites) 0 ↔
      ∃ target ∈ site.targets, Path.components target ∈ seen := by
  simp [ClashesAfter]

theorem clashesAfter_succ {seen : List (List Component)} {site : Site} {sites : List Site}
    {index : Nat} :
    ClashesAfter seen (site :: sites) (index + 1) ↔
      ClashesAfter (seen ++ site.occupied) sites index := by
  simp [ClashesAfter]

namespace Batch

/-- Where the steps of a batch write, in order. -/
def sites (batch : Batch) : List Site :=
  (batch.pairs.map fun pair => Site.ofPair pair batch.directory) ++
    batch.exports.map Site.ofExport

/-- Whether a step writes to a place that an earlier step of the batch has taken. -/
def ClashesAt (batch : Batch) (index : Nat) : Prop := ClashesAfter [] batch.sites index

theorem not_clashesAt_zero (batch : Batch) : ¬ batch.ClashesAt 0 := by
  rintro ⟨site, -, target, -, member⟩
  exact List.not_mem_nil member

end Batch

/-! ## Steps -/

/-- What a step of a batch comes to: it is refused, it fails in another way, or it takes its
places and nothing is lost. -/
inductive StepOutcome (site : Site) (memory : Memory) : Except Error Written → Memory → Prop
  | refused {target : String} (listed : target ∈ site.targets)
      (held : memory.holds target = true) :
      StepOutcome site memory (.error (.fileExists target)) memory
  | failed {error : Error} {after : Memory}
      (free : ∀ target ∈ site.targets, memory.holds target = false)
      (other : ∀ path, error ≠ .fileExists path) :
      StepOutcome site memory (.error error) after
  | written {written : Written} {after : Memory}
      (free : ∀ target ∈ site.targets, memory.holds target = false)
      (takes : ∀ key, after.occupied key = true ↔
        memory.occupied key = true ∨ key ∈ site.occupied)
      (keeps : ∀ key, (memory.content? key).isSome = true → (after.content? key).isSome = true)
      (stores : ∀ target ∈ site.targets, (after.read? target).isSome = true) :
      StepOutcome site memory (.ok written) after

/-- Whether a step writes at a site and nowhere else. -/
def WritesAt (site : Site) (step : Task Memory Written) : Prop :=
  site.targets ≠ [] ∧ ∀ memory, StepOutcome site memory (step memory).1 (step memory).2

theorem held_of_taken?_eq_some {paths : List String} {memory : Memory} {path : String}
    (taken : taken? ⟨false, false⟩ paths memory = some path) :
    path ∈ paths ∧ memory.holds path = true := by
  rw [taken?, if_neg Bool.false_ne_true] at taken
  exact ⟨List.mem_of_find?_eq_some taken, List.find?_some taken⟩

theorem stepOutcome_of_pair {pair : Pair} {directory : String} {memory after : Memory}
    {result : Except Error WrittenPair}
    (outcome : PairOutcome pair (pair.target directory .declaration)
      (pair.target directory .definition) ⟨false, false⟩ memory
      (memory.createDirectories directory) result after) :
    StepOutcome (Site.ofPair pair directory) memory (result.map Written.pair) after := by
  cases outcome with
  | refused taken =>
      obtain ⟨listed, held⟩ := held_of_taken?_eq_some taken
      exact .refused listed held
  | dry free dryRun => contradiction
  | declarationFailed free dryRun unwritable =>
      exact .failed (free_of_taken?_eq_none rfl free) fun path => Error.noConfusion
  | undone free dryRun first second fresh =>
      exact .failed (free_of_taken?_eq_none rfl free) fun path => Error.noConfusion
  | left free dryRun first second existed =>
      exact .failed (free_of_taken?_eq_none rfl free) fun path => Error.noConfusion
  | written free dryRun first second =>
      refine .written (free_of_taken?_eq_none rfl free) (fun key => ?_) (fun key there => ?_)
        fun target listed => ?_
      · rw [Memory.occupied_put, Memory.occupied_put, Memory.occupied_createDirectories]
        simp only [Site.ofPair, Site.occupied, List.map_cons, List.map_nil, List.mem_append,
          List.mem_cons, List.not_mem_nil, or_false]
        constructor
        · rintro (rfl | rfl | before | created)
          · exact .inr (.inr (.inr rfl))
          · exact .inr (.inr (.inl rfl))
          · exact .inl before
          · exact .inr (.inl created)
        · rintro (before | created | rfl | rfl)
          · exact .inr (.inr (.inl before))
          · exact .inr (.inr (.inr created))
          · exact .inr (.inl rfl)
          · exact .inl rfl
      · exact Memory.isSome_content?_put _ _ (Memory.isSome_content?_put _ _ there)
      · rcases List.mem_cons.mp listed with rfl | second
        · refine Memory.isSome_content?_put _ _ ?_
          rw [← Memory.read?, Memory.read?_put]
          rfl
        · rw [List.mem_singleton.mp second, Memory.read?_put]
          rfl

theorem writesAt_pair (pair : Pair) (directory : String) :
    WritesAt (Site.ofPair pair directory)
      (Written.pair <$> writePair pair directory ⟨false, false⟩) := by
  refine ⟨List.cons_ne_nil _ _, fun memory => ?_⟩
  rw [Task.map_apply]
  exact stepOutcome_of_pair (writePair_outcome pair directory ⟨false, false⟩ memory)

theorem occupied_withParent (path : String) (memory : Memory) (key : List Component) :
    (withParent path memory).occupied key = true ↔
      memory.occupied key = true ∨
        key ∈ Path.prefixesOf (((Path.parent? path).map Path.components).getD []) := by
  rw [withParent]
  cases Path.parent? path with
  | none => simp [Path.prefixesOf]
  | some parent =>
      dsimp only
      by_cases here : parent.isEmpty = true
      · have nowhere : Path.components "" = [] := by rfl
        rw [if_pos here, String.isEmpty_iff.mp here, Option.map_some, Option.getD_some, nowhere,
          Path.prefixesOf]
        simp
      · rw [if_neg here, Memory.occupied_createDirectories]
        rfl

theorem stepOutcome_of_export {file : Export} {memory after : Memory}
    {result : Except Error WrittenFile}
    (outcome : FileOutcome file.path file.content ⟨false, false⟩ memory result after) :
    StepOutcome (Site.ofExport file) memory (result.map (Written.file file.title)) after := by
  cases outcome with
  | refused taken =>
      obtain ⟨listed, held⟩ := held_of_taken?_eq_some taken
      exact .refused listed held
  | dry free dryRun => contradiction
  | failed free dryRun unwritable =>
      exact .failed (free_of_taken?_eq_none rfl free) fun path => Error.noConfusion
  | written free dryRun writable =>
      refine .written (free_of_taken?_eq_none rfl free) (fun key => ?_) (fun key there => ?_)
        fun target listed => ?_
      · rw [Memory.occupied_put, occupied_withParent]
        simp only [Site.ofExport, Site.occupied, List.map_cons, List.map_nil, List.mem_append,
          List.mem_singleton]
        constructor
        · rintro (rfl | before | created)
          · exact .inr (.inr rfl)
          · exact .inl before
          · exact .inr (.inl created)
        · rintro (before | created | rfl)
          · exact .inr (.inl before)
          · exact .inr (.inr created)
          · exact .inl rfl
      · refine Memory.isSome_content?_put _ _ ?_
        rwa [content?_withParent]
      · rw [List.mem_singleton.mp listed, Memory.read?_put]
        rfl

theorem writesAt_export (file : Export) :
    WritesAt (Site.ofExport file)
      (Written.file file.title <$> writeFile file.path file.content ⟨false, false⟩) := by
  refine ⟨List.cons_ne_nil _ _, fun memory => ?_⟩
  rw [Task.map_apply]
  exact stepOutcome_of_export (writeFile_outcome file.path file.content ⟨false, false⟩ memory)

/-- The steps of a batch write at its sites. -/
theorem Batch.writesAt_steps (batch : Batch) :
    List.Forall₂ WritesAt batch.sites (batch.steps (σ := Memory) ⟨false, false⟩) := by
  refine List.rel_append ?_ ?_
  · rw [List.forall₂_map_left_iff, List.forall₂_map_right_iff, List.forall₂_same]
    exact fun pair _ => writesAt_pair pair batch.directory
  · rw [List.forall₂_map_left_iff, List.forall₂_map_right_iff, List.forall₂_same]
    exact fun file _ => writesAt_export file

/-! ## Runs -/

theorem runSteps_ok {step : Task Memory Written} {memory next : Memory} {written : Written}
    (done : step memory = (.ok written, next)) (steps : List (Task Memory Written)) :
    runSteps (step :: steps) memory =
      ({ (runSteps steps next).1 with written := written :: (runSteps steps next).1.written },
        (runSteps steps next).2) := by
  rw [runSteps]
  simp only [bind, StateT.bind, ExceptT.run, done]
  rfl

theorem runSteps_error {step : Task Memory Written} {memory next : Memory} {error : Error}
    (failed : step memory = (.error error, next)) (steps : List (Task Memory Written)) :
    runSteps (step :: steps) memory = (⟨[], some error⟩, next) := by
  rw [runSteps]
  simp only [bind, StateT.bind, ExceptT.run, failed]
  rfl

/-- Whether a run has ended with a refusal. -/
def BatchResult.Refused (result : BatchResult) : Prop :=
  ∃ path, result.error = some (.fileExists path)

/-- Steps whose targets were free at first are refused exactly where they clash with one another.
What is occupied during the run is what was occupied at first and what the steps so far have
taken. -/
theorem runSteps_refused_iff {sites : List Site} {steps : List (Task Memory Written)}
    (writes : List.Forall₂ WritesAt sites steps) {start memory : Memory}
    {seen : List (List Component)}
    (reached : ∀ key, memory.occupied key = true ↔ start.occupied key = true ∨ key ∈ seen)
    (free : ∀ site ∈ sites, ∀ target ∈ site.targets, start.holds target = false) :
    (runSteps steps memory).1.Refused ↔
      ClashesAfter seen sites (runSteps steps memory).1.written.length := by
  induction writes generalizing memory seen with
  | nil =>
      constructor
      · rintro ⟨path, refused⟩
        contradiction
      · rintro ⟨site, found, -⟩
        contradiction
  | @cons site step sites steps writesAt rest ih =>
      have here := free site List.mem_cons_self
      have outcome := writesAt.2 memory
      rcases run : step memory with ⟨result, after⟩
      rw [run] at outcome
      cases result with
      | error error =>
          rw [runSteps_error run]
          rw [List.length_nil, clashesAfter_zero]
          cases outcome with
          | @refused target listed held =>
              refine iff_of_true ⟨target, rfl⟩ ⟨target, listed, ?_⟩
              rcases (reached _).mp held with before | taken
              · exact absurd before (Bool.eq_false_iff.mp (here target listed))
              · exact taken
          | failed free other =>
              refine iff_of_false ?_ ?_
              · rintro ⟨path, refused⟩
                exact other path (Option.some.inj refused)
              · rintro ⟨target, listed, taken⟩
                have held := (reached _).mpr (.inr taken)
                exact absurd held (Bool.eq_false_iff.mp (free target listed))
      | ok written =>
          rw [runSteps_ok run, List.length_cons, clashesAfter_succ]
          cases outcome with
          | written _ takes =>
              refine ih (fun key => ?_) fun other member =>
                free other (List.mem_cons_of_mem _ member)
              rw [takes, reached, List.mem_append, or_assoc]

/-- A run that is refused loses no file. -/
theorem isSome_content?_runSteps {sites : List Site} {steps : List (Task Memory Written)}
    (writes : List.Forall₂ WritesAt sites steps) {memory : Memory}
    (refused : (runSteps steps memory).1.Refused) {key : List Component}
    (there : (memory.content? key).isSome = true) :
    ((runSteps steps memory).2.content? key).isSome = true := by
  induction writes generalizing memory with
  | nil => exact there
  | @cons site step sites steps writesAt rest ih =>
      have outcome := writesAt.2 memory
      rcases run : step memory with ⟨result, after⟩
      rw [run] at outcome
      cases result with
      | error error =>
          rw [runSteps_error run] at refused ⊢
          cases outcome with
          | refused listed held => exact there
          | failed free other =>
              obtain ⟨path, refused⟩ := refused
              exact absurd (Option.some.inj refused) (other path)
      | ok written =>
          rw [runSteps_ok run] at refused ⊢
          cases outcome with
          | written free takes keeps => exact ih refused (keeps key there)

/-- What the first step of a refused run has written is there in the end. -/
theorem exists_isSome_read?_runSteps {sites : List Site} {steps : List (Task Memory Written)}
    (writes : List.Forall₂ WritesAt sites steps) {memory : Memory}
    (refused : (runSteps steps memory).1.Refused)
    (late : (runSteps steps memory).1.written ≠ []) :
    ∃ path, memory.holds path = false ∧
      ((runSteps steps memory).2.read? path).isSome = true := by
  cases writes with
  | nil => exact absurd rfl late
  | @cons site step sites steps writesAt rest =>
      obtain ⟨target, listed⟩ := List.exists_mem_of_ne_nil site.targets writesAt.1
      have outcome := writesAt.2 memory
      rcases run : step memory with ⟨result, after⟩
      rw [run] at outcome
      cases result with
      | error error =>
          rw [runSteps_error run] at late
          exact absurd rfl late
      | ok written =>
          rw [runSteps_ok run] at refused ⊢
          cases outcome with
          | written free takes keeps stores =>
              exact ⟨target, free target listed,
                isSome_content?_runSteps rest refused (stores target listed)⟩

/-! ## Refusals -/

namespace Batch

variable {batch : Batch} {memory after : Memory} {result : BatchResult}

/-- The paths that a batch writes. -/
def targets (batch : Batch) : List String := batch.sites.flatMap Site.targets

theorem targets_eq (batch : Batch) :
    batch.targets =
      (batch.pairs.flatMap fun pair =>
        [pair.target batch.directory .declaration, pair.target batch.directory .definition]) ++
        batch.exports.map Export.path := by
  rw [targets, sites, List.flatMap_append, List.flatMap_map, List.flatMap_map,
    List.map_eq_flatMap]
  rfl

/-- A batch is refused before its first write if one of its targets is taken. -/
theorem run_of_taken {options : WriteOptions} {path : String}
    (taken : taken? options batch.targets memory = some path) :
    batch.run options memory = (⟨[], some (.fileExists path)⟩, memory) := by
  rw [targets_eq] at taken
  rw [run, preflight]
  simp only [bind, StateT.bind, ExceptT.run, refuseTaken_error taken]
  rfl

theorem run_of_free {options : WriteOptions} (free : taken? options batch.targets memory = none) :
    batch.run options memory = runSteps (batch.steps options) memory := by
  rw [targets_eq] at free
  rw [run, preflight]
  simp only [bind, StateT.bind, ExceptT.run, refuseTaken_ok free]

/-- If no target was taken at first, a refused run ends at a step that clashes with an earlier one,
and something is there that was not there before. -/
theorem changed_of_free (free : taken? ⟨false, false⟩ batch.targets memory = none)
    (run : batch.run ⟨false, false⟩ memory = (result, after)) (refused : result.Refused) :
    batch.ClashesAt result.written.length ∧
      ∃ path, memory.holds path = false ∧ (after.read? path).isSome = true := by
  have apart : ∀ site ∈ batch.sites, ∀ target ∈ site.targets, memory.holds target = false :=
    fun site member target listed =>
      free_of_taken?_eq_none rfl free target (List.mem_flatMap.mpr ⟨site, member, listed⟩)
  have reached : ∀ key, memory.occupied key = true ↔
      memory.occupied key = true ∨ key ∈ ([] : List (List Component)) := by
    simp
  rw [run_of_free free] at run
  obtain ⟨rfl, rfl⟩ := Prod.mk.inj run
  have clash := (runSteps_refused_iff batch.writesAt_steps reached apart).mp refused
  refine ⟨clash, exists_isSome_read?_runSteps batch.writesAt_steps refused fun none => ?_⟩
  rw [none] at clash
  exact batch.not_clashesAt_zero clash

end Batch

/-- One pair and two exports to one path. -/
def collidingBatch : Batch where
  pairs := [blankPair]
  directory := "out"
  exports := [⟨"build info", "build.txt", "1"⟩, ⟨"version", "build.txt", "2"⟩]

theorem refused_collidingBatch :
    (collidingBatch.run ⟨false, false⟩ Memory.empty).1.Refused :=
  ⟨"build.txt", by decide +kernel⟩

/-- A refused batch has written nothing, unless the step that was refused writes to a place that an
earlier step of the same batch has taken. -/
theorem Batch.run_refused_iff {batch : Batch} {memory after : Memory} {result : BatchResult}
    (run : batch.run ⟨false, false⟩ memory = (result, after))
    (refused : result.Refused) :
    (¬ batch.ClashesAt result.written.length → after = memory) ∧
      ((∀ path, after.read? path = memory.read? path) ↔
        ¬ batch.ClashesAt result.written.length) := by
  cases taken : taken? ⟨false, false⟩ batch.targets memory with
  | some path =>
      rw [run_of_taken taken] at run
      obtain ⟨rfl, rfl⟩ := Prod.mk.inj run
      exact ⟨fun _ => rfl, iff_of_true (fun _ => rfl) batch.not_clashesAt_zero⟩
  | none =>
      obtain ⟨clash, path, free, there⟩ := changed_of_free taken run refused
      refine ⟨fun apart => absurd clash apart,
        iff_of_false (fun same => ?_) fun apart => apart clash⟩
      rw [same path, Memory.read?, Memory.content?_eq_none_of_free free] at there
      exact absurd there Bool.false_ne_true

/-- The condition holds where the second export is refused for the sake of the first. -/
theorem run_refused_iff_collidingBatch :
    ∃ result after, collidingBatch.run ⟨false, false⟩ Memory.empty = (result, after) ∧
      result.Refused ∧
      (¬ collidingBatch.ClashesAt result.written.length → after = Memory.empty) ∧
      ((∀ path, after.read? path = Memory.empty.read? path) ↔
        ¬ collidingBatch.ClashesAt result.written.length) := by
  have refused := refused_collidingBatch
  rcases run : collidingBatch.run ⟨false, false⟩ Memory.empty with ⟨result, after⟩
  rw [run] at refused
  exact ⟨result, after, rfl, refused, Batch.run_refused_iff run refused⟩

/-- The batch is refused after it has written the pair and the first export. -/
theorem run_collidingBatch :
    Builtin.c.render (.standard .smart) Record.empty = .ok blankPair ∧
      (collidingBatch.run ⟨false, false⟩ Memory.empty).1.Refused ∧
      (collidingBatch.run ⟨false, false⟩ Memory.empty).2.read? "build.txt" ≠
        Memory.empty.read? "build.txt" := by
  refine ⟨Builtin.c.render_eq_ok (Builtin.spellingsFor_eq_ok List.mem_cons_self .smart) _,
    refused_collidingBatch, ?_⟩
  decide +kernel

end Imprint.Stamp
