import Imprint.Proofs.Stamp.Outcome
import Imprint.Proofs.Storage.Parent

/-!
# Storage in memory over its history

Storage in memory is a map from the components of paths to texts.  Whatever calls have been made, a
file has the content of the last write to its place that succeeded, unless it has been removed
since.  A call that fails changes nothing, and every directory above a file or a directory is
there.
-/

namespace Imprint.Storage.Memory

variable {memory : Memory} {key : List Component} {content path : String}

/-! ## Calls -/

/-- A call that can change storage in memory. -/
inductive Call where
  | createDirectories (path : String)
  | write (path content : String)
  | remove (path : String)
  | failWritesTo (path : String)

namespace Call

/-- The result of a call and storage after it. -/
def run (call : Call) (memory : Memory) : Except Error Unit × Memory :=
  match call with
  | .createDirectories path => (Backend.createDirectories path : Task Memory Unit) memory
  | .write path content => (Backend.write path content : Task Memory Unit) memory
  | .remove path => (Backend.remove path : Task Memory Unit) memory
  | .failWritesTo path => (.ok (), memory.failWritesTo path)

/-- What a call comes to. -/
inductive Outcome (memory : Memory) : Call → Except Error Unit → Memory → Prop
  | created (path : String) :
      Outcome memory (.createDirectories path) (.ok ()) (memory.createDirectories path)
  | written {path content : String} (parent : memory.hasParent path = true) :
      Outcome memory (.write path content) (.ok ()) (memory.put path content)
  | removed (path : String) :
      Outcome memory (.remove path) (.ok ())
        { memory with files := memory.files.filter (·.key != Path.components path) }
  | spoiled (path : String) :
      Outcome memory (.failWritesTo path) (.ok ()) (memory.failWritesTo path)
  | failed {call : Call} (error : Error) : Outcome memory call (.error error) memory

/-- Running a call comes to one of the outcomes. -/
theorem run_outcome (call : Call) (memory : Memory) :
    Outcome memory call (call.run memory).1 (call.run memory).2 := by
  cases call with
  | createDirectories path => exact .created path
  | write path content =>
      by_cases writable : memory.Writable path
      · rw [run, backendWrite_ok writable content]
        exact .written writable.2
      · obtain ⟨fault, failed⟩ := backendWrite_error writable content
        rw [run, failed]
        exact .failed _
  | remove path =>
      cases there : memory.read? path with
      | none =>
          have failed : memory.remove path = .error (.storage path .fileMissing) := by
            rw [Memory.remove, there]
          have done : run (.remove path) memory = (.error (.storage path .fileMissing), memory) :=
            Task.ofStep_error failed
          rw [done]
          exact .failed _
      | some content =>
          have removed : memory.remove path =
              .ok { memory with files := memory.files.filter (·.key != Path.components path) } := by
            rw [Memory.remove, there]
          have done : run (.remove path) memory = (.ok (), _) := Task.ofStep_ok removed
          rw [done]
          exact .removed path
  | failWritesTo path => exact .spoiled path

/-- A call that fails leaves storage as it is. -/
theorem run_of_failed {call : Call} {error : Error} (failed : (call.run memory).1 = .error error) :
    (call.run memory).2 = memory := by
  have outcome := call.run_outcome memory
  generalize (call.run memory).1 = result at outcome failed
  generalize (call.run memory).2 = after at outcome ⊢
  cases outcome with
  | failed error => rfl
  | created path => contradiction
  | written parent => contradiction
  | removed path => contradiction
  | spoiled path => contradiction

end Call

/-! ## Directories above -/

/-- Every directory above a file or a directory is there. -/
structure Closed (memory : Memory) : Prop where
  directories : ∀ key ∈ memory.directories, ∀ above, above ≠ [] → above <+: key →
    above ∈ memory.directories
  files : ∀ file ∈ memory.files, ∀ above, above ≠ [] → above <+: file.key → above ≠ file.key →
    above ∈ memory.directories

theorem closed_empty : Memory.empty.Closed where
  directories _ member := absurd member List.not_mem_nil
  files _ member := absurd member List.not_mem_nil

theorem key_of_mem_insertFile {file inserted : StoredFile} {files : List StoredFile}
    (member : file ∈ insertFile inserted files) :
    file.key = inserted.key ∨ ∃ other ∈ files, file.key = other.key := by
  induction files with
  | nil => exact .inl (congrArg StoredFile.key (List.mem_singleton.mp member))
  | cons first files ih =>
      rw [insertFile] at member
      split at member
      · rcases List.mem_cons.mp member with rfl | member
        · exact .inr ⟨first, List.mem_cons_self, rfl⟩
        · exact .inr ⟨file, List.mem_cons_of_mem _ member, rfl⟩
      · split at member
        · rcases List.mem_cons.mp member with rfl | member
          · exact .inl rfl
          · exact .inr ⟨file, member, rfl⟩
        · rcases List.mem_cons.mp member with rfl | member
          · exact .inr ⟨file, List.mem_cons_self, rfl⟩
          · rcases ih member with same | ⟨other, listed, same⟩
            · exact .inl same
            · exact .inr ⟨other, List.mem_cons_of_mem _ listed, same⟩

/-- A prefix that is not the whole list is a prefix of the list without its last entry. -/
theorem prefix_dropLast {α : Type} {above list : List α} (initial : above <+: list)
    (proper : above ≠ list) : above <+: list.dropLast := by
  cases list using List.reverseRecOn with
  | nil => exact absurd (List.prefix_nil.mp initial) proper
  | append_singleton list last =>
      rw [List.dropLast_concat]
      exact (List.prefix_concat_iff.mp initial).resolve_left proper

namespace Closed

theorem createDirectories (closed : memory.Closed) (path : String) :
    (memory.createDirectories path).Closed where
  directories := by
    intro key member above nonempty initial
    rw [mem_directories_createDirectories] at member ⊢
    rcases member with before | created
    · exact .inl (closed.directories key before above nonempty initial)
    · have whole := (Path.mem_prefixesOf_iff.mp created).2
      exact .inr (Path.mem_prefixesOf_iff.mpr ⟨nonempty, initial.trans whole⟩)
  files := by
    intro file member above nonempty initial proper
    rw [mem_directories_createDirectories]
    exact .inl (closed.files file member above nonempty initial proper)

/-- The directory that a file is written into is there, so those above it are. -/
theorem put (closed : memory.Closed) (parent : memory.hasParent path = true) (content : String) :
    (memory.put path content).Closed where
  directories := closed.directories
  files := by
    intro file member above nonempty initial proper
    rcases key_of_mem_insertFile member with same | ⟨other, listed, same⟩
    · rw [same] at initial proper
      have below := prefix_dropLast initial proper
      rcases hasParent_iff.mp parent with nothing | there
      · have keyless : StoredFile.key ⟨path, content⟩ = Path.components path := rfl
        rw [keyless, nothing, List.prefix_nil] at below
        exact absurd below nonempty
      · exact closed.directories _ there above nonempty below
    · rw [same] at initial proper
      exact closed.files other listed above nonempty initial proper

theorem filter (closed : memory.Closed) (keep : StoredFile → Bool) :
    ({ memory with files := memory.files.filter keep } : Memory).Closed where
  directories := closed.directories
  files file member := closed.files file (List.mem_filter.mp member).1

theorem run (closed : memory.Closed) (call : Call) : (call.run memory).2.Closed := by
  have outcome := call.run_outcome memory
  generalize (call.run memory).1 = result at outcome
  generalize (call.run memory).2 = after at outcome ⊢
  cases outcome with
  | created path => exact closed.createDirectories path
  | written parent => exact closed.put parent _
  | removed path => exact closed.filter _
  | spoiled path => exact ⟨closed.directories, closed.files⟩
  | failed error => exact closed

end Closed

/-! ## What stands -/

/-- A call and what came of it. -/
structure Event where
  call : Call
  result : Except Error Unit

/-- A content is written to a place. -/
inductive Event.Writes (key : List Component) (content : String) : Event → Prop
  | intro {path : String} (same : Path.components path = key) :
      Writes key content ⟨.write path content, .ok ()⟩

/-- A place is written to, or the file there is removed. -/
inductive Event.Changes (key : List Component) : Event → Prop
  | write {path content : String} (same : Path.components path = key) :
      Changes key ⟨.write path content, .ok ()⟩
  | remove {path : String} (same : Path.components path = key) :
      Changes key ⟨.remove path, .ok ()⟩

theorem Event.Writes.changes {event : Event} (writes : event.Writes key content) :
    event.Changes key := by
  cases writes with
  | intro same => exact .write same

/-- A content has been written to a place, and nothing has changed the place since. -/
def Stands (events : List Event) (key : List Component) (content : String) : Prop :=
  ∃ before event after, events = before ++ event :: after ∧ event.Writes key content ∧
    ∀ later ∈ after, ¬ later.Changes key

theorem not_stands_nil : ¬ Stands [] key content := by
  rintro ⟨before, event, after, split, -, -⟩
  exact absurd split.symm (List.append_ne_nil_of_right_ne_nil _ (List.cons_ne_nil _ _))

/-- What stands after one more event has been written by it, or has stood before and is not
changed by it. -/
theorem stands_append_singleton {events : List Event} {event : Event} :
    Stands (events ++ [event]) key content ↔
      event.Writes key content ∨ Stands events key content ∧ ¬ event.Changes key := by
  constructor
  · rintro ⟨before, earlier, after, split, writes, unchanged⟩
    cases after using List.reverseRecOn with
    | nil =>
        obtain ⟨-, rfl⟩ := List.append_inj' split rfl |>.imp_right List.singleton_inj.mp
        exact .inl writes
    | append_singleton after last =>
        rw [← List.cons_append, ← List.append_assoc] at split
        obtain ⟨rfl, same⟩ := List.append_inj' split rfl
        obtain rfl := List.singleton_inj.mp same
        refine .inr ⟨⟨before, earlier, after, rfl, writes, fun later member => ?_⟩, ?_⟩
        · exact unchanged later (List.mem_append_left _ member)
        · exact unchanged event (List.mem_append_right _ List.mem_cons_self)
  · rintro (writes | ⟨⟨before, earlier, after, rfl, writes, unchanged⟩, kept⟩)
    · exact ⟨events, event, [], rfl, writes, by simp⟩
    · refine ⟨before, earlier, after ++ [event], by simp, writes, fun later member => ?_⟩
      rcases List.mem_append.mp member with inside | last
      · exact unchanged later inside
      · rw [List.mem_singleton.mp last]
        exact kept

theorem content?_filter_key (memory : Memory) (removed key : List Component) :
    ({ memory with files := memory.files.filter (·.key != removed) } : Memory).content? key =
      if removed = key then none else memory.content? key := by
  rw [content?, content?, List.find?_filter]
  by_cases same : removed = key
  · rw [if_pos same, Option.map_eq_none_iff, List.find?_eq_none]
    intro file _
    simp [same]
  · rw [if_neg same]
    congr 2
    funext file
    by_cases here : file.key = key
    · simp [here, Ne.symm same]
    · simp [here]

/-- An event that does not change a place leaves what is there. -/
theorem Event.writes_or_unchanged_iff {event : Event} {held : Prop}
    (idle : ¬ event.Changes key) :
    event.Writes key content ∨ held ∧ ¬ event.Changes key ↔ held := by
  constructor
  · rintro (writes | ⟨there, -⟩)
    · exact absurd writes.changes idle
    · exact there
  · exact fun there => .inr ⟨there, idle⟩

/-- What a place holds after a call has been written by it, or was there before and is not changed
by it. -/
theorem content?_run (call : Call) (memory : Memory) (key : List Component) (content : String) :
    (call.run memory).2.content? key = some content ↔
      Event.Writes key content ⟨call, (call.run memory).1⟩ ∨
        memory.content? key = some content ∧ ¬ Event.Changes key ⟨call, (call.run memory).1⟩ := by
  have outcome := call.run_outcome memory
  generalize (call.run memory).1 = result at outcome ⊢
  generalize (call.run memory).2 = after at outcome ⊢
  cases outcome with
  | created path =>
      have idle : ¬ Event.Changes key ⟨.createDirectories path, .ok ()⟩ := nofun
      rw [Event.writes_or_unchanged_iff idle, content?_createDirectories]
  | @written path text parent =>
      rw [content?_put]
      by_cases same : Path.components path = key
      · rw [if_pos same, Option.some_inj]
        constructor
        · rintro rfl
          exact .inl ⟨same⟩
        · rintro (⟨⟨-⟩⟩ | ⟨-, unchanged⟩)
          · rfl
          · exact absurd (.write same) unchanged
      · have idle : ¬ Event.Changes key ⟨.write path text, .ok ()⟩ := by
          intro changes
          cases changes with
          | write here => exact same here
        rw [if_neg same, Event.writes_or_unchanged_iff idle]
  | removed path =>
      rw [content?_filter_key]
      by_cases same : Path.components path = key
      · rw [if_pos same]
        refine iff_of_false (Option.some_ne_none _).symm ?_
        rintro (writes | ⟨-, unchanged⟩)
        · cases writes
        · exact unchanged (.remove same)
      · have idle : ¬ Event.Changes key ⟨.remove path, .ok ()⟩ := by
          intro changes
          cases changes with
          | remove here => exact same here
        rw [if_neg same, Event.writes_or_unchanged_iff idle]
  | spoiled path =>
      have idle : ¬ Event.Changes key ⟨.failWritesTo path, .ok ()⟩ := nofun
      rw [Event.writes_or_unchanged_iff idle]
      rfl
  | failed error =>
      have idle : ¬ Event.Changes key ⟨call, .error error⟩ := nofun
      rw [Event.writes_or_unchanged_iff idle]

/-! ## Histories -/

/-- Storage in memory together with everything that has been done to it. -/
structure Session where
  events : List Event
  memory : Memory

namespace Session

/-- Storage to which nothing has been done. -/
def fresh : Session := ⟨[], Memory.empty⟩

/-- One more call. -/
def perform (session : Session) (call : Call) : Session where
  events := session.events ++ [⟨call, (call.run session.memory).1⟩]
  memory := (call.run session.memory).2

/-- The calls in order. -/
def ofCalls (calls : List Call) : Session := calls.foldl perform fresh

/-- Storage holds what its history says. -/
structure Faithful (session : Session) : Prop where
  content : ∀ key content, session.memory.content? key = some content ↔
    Stands session.events key content
  closed : session.memory.Closed

theorem faithful_fresh : fresh.Faithful where
  content _ _ := iff_of_false (Option.some_ne_none _).symm not_stands_nil
  closed := closed_empty

theorem Faithful.perform {session : Session} (faithful : session.Faithful) (call : Call) :
    (session.perform call).Faithful where
  content key content := by
    rw [Session.perform, content?_run, stands_append_singleton, faithful.content]
  closed := faithful.closed.run call

/-- Storage holds what its history says, whatever calls have been made. -/
theorem faithful_ofCalls (calls : List Call) : (ofCalls calls).Faithful := by
  induction calls using List.reverseRecOn with
  | nil => exact faithful_fresh
  | append_singleton calls call ih =>
      rw [ofCalls, List.foldl_concat]
      exact ih.perform call

end Session

theorem read_eq_ok_iff : memory.read path = .ok content ↔
    memory.content? (Path.components path) = some content := by
  rw [read, read?]
  cases memory.content? (Path.components path) <;> simp

theorem read_eq_error_iff : memory.read path = .error (.storage path .fileMissing) ↔
    ∀ content, memory.content? (Path.components path) ≠ some content := by
  rw [read, read?]
  cases memory.content? (Path.components path) <;> simp

/-- After any calls, a path reads as the content that stands at its components, and cannot be read
if none does.  A call that fails changes nothing.  Every directory above a file or a directory is
there. -/
theorem read_ofCalls (calls : List Call) :
    (∀ path content, (Session.ofCalls calls).memory.read path = .ok content ↔
      Stands (Session.ofCalls calls).events (Path.components path) content) ∧
    (∀ path, (Session.ofCalls calls).memory.read path = .error (.storage path .fileMissing) ↔
      ∀ content, ¬ Stands (Session.ofCalls calls).events (Path.components path) content) ∧
    (∀ (call : Call) (error : Error),
      (call.run (Session.ofCalls calls).memory).1 = .error error →
        (call.run (Session.ofCalls calls).memory).2 = (Session.ofCalls calls).memory) ∧
    (Session.ofCalls calls).memory.Closed := by
  have faithful := Session.faithful_ofCalls calls
  refine ⟨fun path content => ?_, fun path => ?_, ?_, faithful.closed⟩
  · rw [read_eq_ok_iff, faithful.content]
  · rw [read_eq_error_iff]
    exact forall_congr' fun content => not_congr (faithful.content _ content)
  · exact fun call error failed => Call.run_of_failed failed

end Imprint.Storage.Memory
