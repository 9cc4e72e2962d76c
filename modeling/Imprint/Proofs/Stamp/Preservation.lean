import Imprint.Proofs.Stamp.Pair

/-!
# What stamping keeps

Unless overwriting is forced, no call takes a file away or changes what is in it, whether the call
succeeds or fails.  So every file outlasts a whole run of calls, with writes that begin to fail at
any time.  A dry run changes nothing at all.
-/

namespace Imprint

open Storage (Memory Task Path.components)

/-! ## Kept files -/

namespace Storage.Memory

variable {before between after : Memory} {path : String}

/-- Every file that was there is there with the same content. -/
def Keeps (before after : Memory) : Prop :=
  ∀ path content, before.read? path = some content → after.read? path = some content

theorem Keeps.refl (memory : Memory) : Keeps memory memory :=
  fun _ _ there => there

theorem Keeps.trans (first : Keeps before between) (second : Keeps between after) :
    Keeps before after :=
  fun path content there => second path content (first path content there)

/-- Directories and failing paths do not matter for files. -/
theorem keeps_of_content?_eq (same : ∀ key, after.content? key = before.content? key) :
    Keeps before after := by
  intro path content there
  rw [read?, same]
  exact there

/-- A file that is written where there was none is in nobody's way. -/
theorem Keeps.put (kept : Keeps before between) (free : before.holds path = false)
    (content : String) : Keeps before (between.put path content) := by
  intro other old there
  have absent := content?_eq_none_of_free free
  rw [read?, content?_put]
  by_cases same : Path.components path = Path.components other
  · rw [same, ← read?, there] at absent
    contradiction
  · rw [if_neg same]
    exact kept other old there

end Storage.Memory

namespace Stamp

open Storage.Memory (Keeps)

/-! ## One call -/

section Outcomes

variable {pair : Pair} {declaration definition path content : String} {options : WriteOptions}
  {memory made after : Memory}

theorem PairOutcome.keeps {result : Except Error WrittenPair} (unforced : options.force = false)
    (kept : Keeps memory made)
    (outcome : PairOutcome pair declaration definition options memory made result after) :
    Keeps memory after := by
  cases outcome with
  | refused taken => exact .refl memory
  | dry free dryRun => exact .refl memory
  | declarationFailed free dryRun unwritable => exact kept
  | undone free dryRun first second fresh => exact kept
  | left free dryRun first second existed =>
      have vacant := free_of_taken?_eq_none unforced free
      exact kept.put (vacant _ List.mem_cons_self) pair.declaration
  | written free dryRun first second =>
      have vacant := free_of_taken?_eq_none unforced free
      have once := kept.put (vacant _ List.mem_cons_self) pair.declaration
      exact once.put (vacant _ (List.mem_cons_of_mem _ List.mem_cons_self)) pair.definition

theorem PairOutcome.eq_of_dryRun {result : Except Error WrittenPair}
    (dry : options.dryRun = true)
    (outcome : PairOutcome pair declaration definition options memory made result after) :
    after = memory := by
  cases outcome with
  | refused taken => rfl
  | dry free dryRun => rfl
  | declarationFailed free dryRun unwritable => exact absurd (dry.symm.trans dryRun) (by decide)
  | undone free dryRun first second fresh => exact absurd (dry.symm.trans dryRun) (by decide)
  | left free dryRun first second existed => exact absurd (dry.symm.trans dryRun) (by decide)
  | written free dryRun first second => exact absurd (dry.symm.trans dryRun) (by decide)

theorem FileOutcome.keeps {result : Except Error WrittenFile} (unforced : options.force = false)
    (outcome : FileOutcome path content options memory result after) : Keeps memory after := by
  have prepared : Keeps memory (withParent path memory) :=
    Storage.Memory.keeps_of_content?_eq (content?_withParent path memory)
  cases outcome with
  | refused taken => exact .refl memory
  | dry free dryRun => exact .refl memory
  | failed free dryRun unwritable => exact prepared
  | written free dryRun writable =>
      have vacant := free_of_taken?_eq_none unforced free
      exact prepared.put (vacant path List.mem_cons_self) content

theorem FileOutcome.eq_of_dryRun {result : Except Error WrittenFile}
    (dry : options.dryRun = true)
    (outcome : FileOutcome path content options memory result after) : after = memory := by
  cases outcome with
  | refused taken => rfl
  | dry free dryRun => rfl
  | failed free dryRun unwritable => exact absurd (dry.symm.trans dryRun) (by decide)
  | written free dryRun writable => exact absurd (dry.symm.trans dryRun) (by decide)

end Outcomes

/-- What can be written by one call. -/
inductive Call where
  | ofPair (pair : Pair) (directory : String)
  | ofFile (path content : String)

namespace Call

/-- Storage after a call, whether it has succeeded or failed. -/
def run (call : Call) (options : WriteOptions) (memory : Memory) : Memory :=
  match call with
  | .ofPair pair directory =>
      ((writePair pair directory options : Task Memory WrittenPair) memory).2
  | .ofFile path content =>
      ((writeFile path content options : Task Memory WrittenFile) memory).2

theorem keeps_run (call : Call) {options : WriteOptions} (unforced : options.force = false)
    (memory : Memory) : Keeps memory (call.run options memory) := by
  cases call with
  | ofPair pair directory =>
      exact (writePair_outcome pair directory options memory).keeps unforced
        (Storage.Memory.keeps_of_content?_eq (memory.content?_createDirectories directory))
  | ofFile path content => exact (writeFile_outcome path content options memory).keeps unforced

theorem run_of_dryRun (call : Call) {options : WriteOptions} (dry : options.dryRun = true)
    (memory : Memory) : call.run options memory = memory := by
  cases call with
  | ofPair pair directory => exact (writePair_outcome pair directory options memory).eq_of_dryRun dry
  | ofFile path content => exact (writeFile_outcome path content options memory).eq_of_dryRun dry

end Call

/-! ## Runs -/

/-- What happens to storage: a call, or a path that cannot be written any more. -/
inductive Event where
  | called (call : Call) (options : WriteOptions)
  | rejected (path : String)

namespace Event

/-- Storage after an event. -/
def run (event : Event) (memory : Memory) : Memory :=
  match event with
  | .called call options => call.run options memory
  | .rejected path => memory.failWritesTo path

/-- Whether an event forces nothing to be overwritten. -/
def Unforced : Event → Prop
  | .called _ options => options.force = false
  | .rejected _ => True

theorem keeps_run {event : Event} (unforced : event.Unforced) (memory : Memory) :
    Keeps memory (event.run memory) := by
  cases event with
  | called call options => exact call.keeps_run unforced memory
  | rejected path => exact Storage.Memory.keeps_of_content?_eq fun _ => rfl

end Event

/-- Storage after some events. -/
def runEvents (events : List Event) (memory : Memory) : Memory :=
  events.foldl (fun memory event => event.run memory) memory

theorem runEvents_cons (event : Event) (events : List Event) (memory : Memory) :
    runEvents (event :: events) memory = runEvents events (event.run memory) :=
  rfl

theorem keeps_runEvents {events : List Event} (unforced : ∀ event ∈ events, event.Unforced)
    (memory : Memory) : Keeps memory (runEvents events memory) := by
  induction events generalizing memory with
  | nil => exact .refl memory
  | cons event events ih =>
      rw [List.forall_mem_cons] at unforced
      rw [runEvents_cons]
      exact (Event.keeps_run unforced.1 memory).trans (ih unforced.2 (event.run memory))

/-- No run of calls that are not forced takes a file away or changes its content, and a dry call
leaves storage as it is. -/
theorem runEvents_keeps_and_dry {events : List Event}
    (unforced : ∀ event ∈ events, event.Unforced) (memory : Memory) :
    (∀ path content, memory.read? path = some content →
        (runEvents events memory).read? path = some content) ∧
      ∀ (call : Call) (options : WriteOptions) (state : Memory),
        options.dryRun = true → call.run options state = state :=
  ⟨keeps_runEvents unforced memory, fun call _ state dry => call.run_of_dryRun dry state⟩

/-- Writes around an old file: two to its place, and a pair that is given up half-way. -/
def busyEvents : List Event :=
  [.called (.ofFile "out//version.h" "new") ⟨false, false⟩,
   .called (.ofPair blankPair "out") ⟨false, false⟩,
   .rejected "other/./version.c",
   .called (.ofPair blankPair "other") ⟨false, false⟩,
   .called (.ofPair blankPair "third") ⟨false, true⟩]

/-- The old file outlasts them. -/
theorem runEvents_keeps_and_dry_busyEvents :
    (∀ event ∈ busyEvents, event.Unforced) ∧
      (∀ path content, halfRejecting.read? path = some content →
        (runEvents busyEvents halfRejecting).read? path = some content) ∧
      ∀ (call : Call) (options : WriteOptions) (state : Memory),
        options.dryRun = true → call.run options state = state := by
  have unforced : ∀ event ∈ busyEvents, event.Unforced := by
    simp [busyEvents, Event.Unforced]
  exact ⟨unforced, runEvents_keeps_and_dry unforced halfRejecting⟩

end Stamp

end Imprint
