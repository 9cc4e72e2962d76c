import Imprint.Proofs.Storage.Memory
import Imprint.Stamp

/-!
# What writing a pair or a file comes to

Writing to storage in memory ends in one of a few ways.  Each is given with the result and with
the storage that it leaves behind, so that nothing else has to follow the steps of stamping.
-/

namespace Imprint

open Storage (Memory Task Path.components Path.parent?)

/-! ## Tasks -/

namespace Storage.Task

variable {σ α β : Type} {task : Task σ α} {before after : σ}

theorem bind_ok {value : α} (done : task before = (.ok value, after)) (next : α → Task σ β) :
    (task >>= next) before = next value after := by
  simp only [bind, ExceptT.bind, ExceptT.mk, StateT.bind, done]
  rfl

theorem bind_error {error : Error} (failed : task before = (.error error, after))
    (next : α → Task σ β) : (task >>= next) before = (.error error, after) := by
  simp only [bind, ExceptT.bind, ExceptT.mk, StateT.bind, failed]
  rfl

theorem map_apply (f : α → β) (task : Task σ α) (state : σ) :
    (f <$> task) state = ((task state).1.map f, (task state).2) := by
  simp only [Functor.map, ExceptT.map, ExceptT.mk, bind, StateT.bind]
  rcases task state with ⟨_ | _, _⟩ <;> rfl

theorem get_bind (state : σ) (next : σ → Task σ β) :
    ((get : Task σ σ) >>= next) state = next state state :=
  rfl

theorem tryCatch_ok {value : α} (done : task before = (.ok value, after))
    (handler : Error → Task σ α) :
    (tryCatch task handler : Task σ α) before = (.ok value, after) := by
  simp only [tryCatch, tryCatchThe, MonadExceptOf.tryCatch, ExceptT.tryCatch, ExceptT.mk, bind,
    StateT.bind, done]
  rfl

theorem tryCatch_error {error : Error} (failed : task before = (.error error, after))
    (handler : Error → Task σ α) :
    (tryCatch task handler : Task σ α) before = handler error after := by
  simp only [tryCatch, tryCatchThe, MonadExceptOf.tryCatch, ExceptT.tryCatch, ExceptT.mk, bind,
    StateT.bind, failed]

theorem ofStep_ok {step : σ → Except Error σ} (done : step before = .ok after) :
    ofStep step before = (.ok (), after) := by
  rw [ofStep, done]

theorem ofStep_error {step : σ → Except Error σ} {error : Error}
    (failed : step before = .error error) : ofStep step before = (.error error, before) := by
  rw [ofStep, failed]

end Storage.Task

namespace Storage.Memory

variable {memory : Memory} {path : String}

theorem backendWrite_ok (writable : memory.Writable path) (content : String) :
    (Storage.Backend.write path content : Task Memory Unit) memory =
      (.ok (), memory.put path content) :=
  Task.ofStep_ok (write_eq_ok writable content)

theorem backendWrite_error (unwritable : ¬ memory.Writable path) (content : String) :
    ∃ fault, (Storage.Backend.write path content : Task Memory Unit) memory =
      (.error (.storage path fault), memory) := by
  obtain ⟨fault, failed⟩ := write_eq_error unwritable content
  exact ⟨fault, Task.ofStep_error failed⟩

theorem backendHolds (memory : Memory) (path : String) :
    Storage.Backend.holds memory path = memory.holds path :=
  rfl

theorem backendCreateDirectories (memory : Memory) (path : String) :
    (Storage.Backend.createDirectories path : Task Memory Unit) memory =
      (.ok (), memory.createDirectories path) :=
  rfl

end Storage.Memory

namespace Stamp

/-! ## Refusal -/

/-- The first of some paths at which something is, unless overwriting is forced. -/
def taken? (options : WriteOptions) (paths : List String) (memory : Memory) : Option String :=
  if options.force then none else paths.find? memory.holds

/-- What is not refused writes to free places, unless overwriting is forced. -/
theorem free_of_taken?_eq_none {options : WriteOptions} {paths : List String} {memory : Memory}
    (unforced : options.force = false) (free : taken? options paths memory = none) :
    ∀ path ∈ paths, memory.holds path = false := by
  rw [taken?, unforced, if_neg Bool.false_ne_true, List.find?_eq_none] at free
  exact fun path member => Bool.eq_false_iff.mpr (free path member)

theorem refuseExisting_ok {path : String} {memory : Memory} (free : memory.holds path = false) :
    (refuseExisting path : Task Memory Unit) memory = (.ok (), memory) := by
  rw [refuseExisting, Task.get_bind, if_neg]
  · rfl
  · exact Bool.eq_false_iff.mp free

theorem refuseExisting_error {path : String} {memory : Memory}
    (held : memory.holds path = true) :
    (refuseExisting path : Task Memory Unit) memory = (.error (.fileExists path), memory) := by
  rw [refuseExisting, Task.get_bind, if_pos]
  · rfl
  · exact held

/-- Storage stays as it is, whether a write is refused or not. -/
theorem refuseTaken_eq (options : WriteOptions) (paths : List String) (memory : Memory) :
    (refuseTaken options paths : Task Memory Unit) memory =
      (match taken? options paths memory with
        | some path => .error (.fileExists path)
        | none => .ok (), memory) := by
  rw [refuseTaken, taken?]
  by_cases force : options.force = true
  · rw [if_pos force, if_pos force]
    rfl
  · rw [if_neg force, if_neg force]
    induction paths with
    | nil => rfl
    | cons path paths ih =>
        rw [List.forM, List.find?_cons]
        cases held : memory.holds path with
        | true => exact Task.bind_error (refuseExisting_error held) _
        | false => exact (Task.bind_ok (refuseExisting_ok held) _).trans ih

theorem refuseTaken_ok {options : WriteOptions} {paths : List String} {memory : Memory}
    (free : taken? options paths memory = none) :
    (refuseTaken options paths : Task Memory Unit) memory = (.ok (), memory) := by
  rw [refuseTaken_eq, free]

theorem refuseTaken_error {options : WriteOptions} {paths : List String} {memory : Memory}
    {path : String} (taken : taken? options paths memory = some path) :
    (refuseTaken options paths : Task Memory Unit) memory =
      (.error (.fileExists path), memory) := by
  rw [refuseTaken_eq, taken]

/-! ## Pairs -/

/-- What writing a pair to two paths comes to.  `made` is storage once the directory is there. -/
inductive PairOutcome (pair : Pair) (declaration definition : String) (options : WriteOptions)
    (memory made : Memory) : Except Error WrittenPair → Memory → Prop
  | refused {path : String}
      (taken : taken? options [declaration, definition] memory = some path) :
      PairOutcome pair declaration definition options memory made (.error (.fileExists path)) memory
  | dry (free : taken? options [declaration, definition] memory = none)
      (dryRun : options.dryRun = true) :
      PairOutcome pair declaration definition options memory made
        (.ok ⟨pair.language, declaration, definition, false⟩) memory
  | declarationFailed {fault : Storage.Fault}
      (free : taken? options [declaration, definition] memory = none)
      (dryRun : options.dryRun = false) (unwritable : ¬ made.Writable declaration) :
      PairOutcome pair declaration definition options memory made
        (.error (.storage declaration fault)) made
  | undone {fault : Storage.Fault}
      (free : taken? options [declaration, definition] memory = none)
      (dryRun : options.dryRun = false) (first : made.Writable declaration)
      (second : ¬ made.Writable definition) (fresh : made.holds declaration = false) :
      PairOutcome pair declaration definition options memory made
        (.error (.storage definition fault)) made
  | left {fault : Storage.Fault}
      (free : taken? options [declaration, definition] memory = none)
      (dryRun : options.dryRun = false) (first : made.Writable declaration)
      (second : ¬ made.Writable definition) (existed : made.holds declaration = true) :
      PairOutcome pair declaration definition options memory made
        (.error (.storage definition fault)) (made.put declaration pair.declaration)
  | written (free : taken? options [declaration, definition] memory = none)
      (dryRun : options.dryRun = false) (first : made.Writable declaration)
      (second : made.Writable definition) :
      PairOutcome pair declaration definition options memory made
        (.ok ⟨pair.language, declaration, definition, true⟩)
        ((made.put declaration pair.declaration).put definition pair.definition)

theorem writeDefinition_ok {pair : Pair} {definition : String} {memory : Memory}
    (writable : memory.Writable definition) (declaration : String) (existed : Bool) :
    (writeDefinition pair declaration definition existed : Task Memory Unit) memory =
      (.ok (), memory.put definition pair.definition) :=
  Task.tryCatch_ok (Memory.backendWrite_ok writable pair.definition) _

/-- When the second half cannot be written, a first half that is new is removed. -/
theorem writeDefinition_error {definition : String} {memory : Memory}
    (unwritable : ¬ memory.Writable definition) (pair : Pair) (declaration : String)
    (existed : Bool) :
    ∃ fault, (writeDefinition pair declaration definition existed : Task Memory Unit) memory =
      (.error (.storage definition fault),
        if existed then memory
        else (Task.ofStep (Memory.remove declaration) memory).2) := by
  obtain ⟨fault, failed⟩ := Memory.backendWrite_error unwritable pair.definition
  refine ⟨fault, ?_⟩
  rw [writeDefinition, Task.tryCatch_error failed]
  cases existed <;> rfl

/-- Writing a pair comes to one of the outcomes. -/
theorem writePair_outcome (pair : Pair) (directory : String) (options : WriteOptions)
    (memory : Memory) :
    PairOutcome pair (pair.target directory .declaration) (pair.target directory .definition)
      options memory (memory.createDirectories directory)
      ((writePair pair directory options : Task Memory WrittenPair) memory).1
      ((writePair pair directory options : Task Memory WrittenPair) memory).2 := by
  rw [writePair]
  generalize pair.target directory .declaration = declaration
  generalize pair.target directory .definition = definition
  cases taken : taken? options [declaration, definition] memory with
  | some path =>
      rw [Task.bind_error (refuseTaken_error taken)]
      exact .refused taken
  | none =>
      rw [Task.bind_ok (refuseTaken_ok taken)]
      cases dryRun : options.dryRun with
      | true => exact .dry taken dryRun
      | false =>
          rw [if_neg Bool.false_ne_true,
            Task.bind_ok (Memory.backendCreateDirectories memory directory), Task.get_bind,
            Memory.backendHolds]
          generalize memory.createDirectories directory = made
          by_cases first : made.Writable declaration
          · rw [Task.bind_ok (Memory.backendWrite_ok first pair.declaration)]
            by_cases second : made.Writable definition
            · rw [Task.bind_ok (writeDefinition_ok (Memory.writable_put.mpr second) _ _)]
              exact .written taken dryRun first second
            · have unwritable : ¬ (made.put declaration pair.declaration).Writable definition :=
                mt Memory.writable_put.mp second
              obtain ⟨fault, failed⟩ :=
                writeDefinition_error unwritable pair declaration (made.holds declaration)
              rw [Task.bind_error failed]
              cases existed : made.holds declaration with
              | true => exact .left taken dryRun first second existed
              | false =>
                  have removed := Memory.remove_put (Memory.content?_eq_none_of_free existed)
                    pair.declaration
                  rw [if_neg Bool.false_ne_true, Task.ofStep_ok removed]
                  exact .undone taken dryRun first second existed
          · obtain ⟨fault, failed⟩ := Memory.backendWrite_error first pair.declaration
            rw [Task.bind_error failed]
            exact .declarationFailed taken dryRun first

/-! ## Files -/

/-- Storage once the directory that a file belongs into is there. -/
def withParent (path : String) (memory : Memory) : Memory :=
  match Path.parent? path with
  | some parent => if parent.isEmpty then memory else memory.createDirectories parent
  | none => memory

theorem createParent_eq (path : String) (memory : Memory) :
    (createParent path : Task Memory Unit) memory = (.ok (), withParent path memory) := by
  rw [createParent, withParent]
  cases Path.parent? path with
  | none => rfl
  | some parent =>
      dsimp only
      by_cases here : parent.isEmpty = true
      · rw [if_pos here, if_pos here]
        rfl
      · rw [if_neg here, if_neg here, Memory.backendCreateDirectories]

theorem content?_withParent (path : String) (memory : Memory) (key : List Storage.Component) :
    (withParent path memory).content? key = memory.content? key := by
  rw [withParent]
  split
  · split
    · rfl
    · rfl
  · rfl

/-- What writing a file comes to. -/
inductive FileOutcome (path content : String) (options : WriteOptions) (memory : Memory) :
    Except Error WrittenFile → Memory → Prop
  | refused (taken : taken? options [path] memory = some path) :
      FileOutcome path content options memory (.error (.fileExists path)) memory
  | dry (free : taken? options [path] memory = none) (dryRun : options.dryRun = true) :
      FileOutcome path content options memory (.ok ⟨path, false⟩) memory
  | failed {fault : Storage.Fault} (free : taken? options [path] memory = none)
      (dryRun : options.dryRun = false) (unwritable : ¬ (withParent path memory).Writable path) :
      FileOutcome path content options memory (.error (.storage path fault))
        (withParent path memory)
  | written (free : taken? options [path] memory = none) (dryRun : options.dryRun = false)
      (writable : (withParent path memory).Writable path) :
      FileOutcome path content options memory (.ok ⟨path, true⟩)
        ((withParent path memory).put path content)

/-- Writing a file comes to one of the outcomes. -/
theorem writeFile_outcome (path content : String) (options : WriteOptions) (memory : Memory) :
    FileOutcome path content options memory
      ((writeFile path content options : Task Memory WrittenFile) memory).1
      ((writeFile path content options : Task Memory WrittenFile) memory).2 := by
  rw [writeFile]
  cases taken : taken? options [path] memory with
  | some other =>
      have self : other = path := by
        rw [taken?] at taken
        split at taken
        · contradiction
        · exact List.mem_singleton.mp (List.mem_of_find?_eq_some taken)
      rw [Task.bind_error (refuseTaken_error taken), self]
      exact .refused (self ▸ taken)
  | none =>
      rw [Task.bind_ok (refuseTaken_ok taken)]
      cases dryRun : options.dryRun with
      | true => exact .dry taken dryRun
      | false =>
          rw [if_neg Bool.false_ne_true, Task.bind_ok (createParent_eq path memory)]
          by_cases writable : (withParent path memory).Writable path
          · rw [Task.bind_ok (Memory.backendWrite_ok writable content)]
            exact .written taken dryRun writable
          · obtain ⟨fault, failed⟩ := Memory.backendWrite_error writable content
            rw [Task.bind_error failed]
            exact .failed taken dryRun writable

end Stamp

end Imprint
