import Imprint.Storage.Memory

/-!
# What storage in memory holds

Each operation on storage in memory, in terms of what is there before and after it.  Files are
looked up by the components of their paths, so nothing here depends on how a path is written.
-/

namespace Imprint.Storage.Memory

variable {memory : Memory} {path content : String}

/-! ## Places -/

/-- Whether a file or a directory is under some components. -/
def occupied (memory : Memory) (key : List Component) : Bool :=
  (memory.content? key).isSome || memory.directories.contains key

theorem holds_eq_occupied (memory : Memory) (path : String) :
    memory.holds path = memory.occupied (Path.components path) :=
  rfl

/-- Where nothing is there is no file. -/
theorem content?_eq_none_of_free (free : memory.holds path = false) :
    memory.content? (Path.components path) = none := by
  rw [holds, Bool.or_eq_false_iff, Option.isSome_eq_false_iff, Option.isNone_iff_eq_none] at free
  exact free.1

/-! ## Writing -/

/-- Whether a file can be written: its path is not one that fails, and its directory is there. -/
def Writable (memory : Memory) (path : String) : Prop :=
  memory.failing.contains (Path.components path) = false ∧ memory.hasParent path = true

instance (memory : Memory) (path : String) : Decidable (memory.Writable path) :=
  inferInstanceAs (Decidable (_ ∧ _))

/-- Storage with one more file, or with another content of one. -/
def put (memory : Memory) (path content : String) : Memory :=
  { memory with files := insertFile ⟨path, content⟩ memory.files }

/-- Whether a file can be written does not depend on the files. -/
theorem writable_put {written : String} :
    (memory.put written content).Writable path ↔ memory.Writable path :=
  Iff.rfl

theorem write_eq_ok (writable : memory.Writable path) (content : String) :
    memory.write path content = .ok (memory.put path content) := by
  rw [write, writable.1, writable.2]
  rfl

theorem write_eq_error (unwritable : ¬ memory.Writable path) (content : String) :
    ∃ cause, memory.write path content = .error (.storage path cause) := by
  rw [write]
  by_cases failing : memory.failing.contains (Path.components path) = true
  · exact ⟨.writeRejected, if_pos failing⟩
  · rw [if_neg failing]
    have orphan : memory.hasParent path = false := by
      rw [← Bool.not_eq_true]
      intro parent
      exact unwritable ⟨Bool.not_eq_true _ ▸ failing, parent⟩
    exact ⟨.parentMissing, by rw [orphan]; rfl⟩

theorem find?_insertFile (file : StoredFile) (files : List StoredFile) (key : List Component) :
    ((insertFile file files).find? (·.key == key)).map StoredFile.content =
      if file.key = key then some file.content
      else (files.find? (·.key == key)).map StoredFile.content := by
  induction files with
  | nil =>
      rw [insertFile, List.find?_cons]
      by_cases same : file.key = key
      · rw [if_pos same, beq_iff_eq.mpr same]
        rfl
      · rw [if_neg same, beq_false_of_ne same]
  | cons first files ih =>
      rw [insertFile]
      by_cases taken : file.key = first.key
      · rw [if_pos taken, List.find?_cons, List.find?_cons]
        have key_eq : ({ first with content := file.content } : StoredFile).key = first.key := rfl
        rw [key_eq, ← taken]
        by_cases same : file.key = key
        · rw [if_pos same, beq_iff_eq.mpr same]
          rfl
        · rw [if_neg same, beq_false_of_ne same]
      · rw [if_neg taken]
        by_cases before : Component.listLess file.key first.key = true
        · rw [if_pos before, List.find?_cons]
          by_cases same : file.key = key
          · rw [if_pos same, beq_iff_eq.mpr same]
            rfl
          · rw [if_neg same, beq_false_of_ne same]
        · rw [if_neg before, List.find?_cons, List.find?_cons]
          by_cases here : first.key = key
          · rw [beq_iff_eq.mpr here, if_neg fun same => taken (same.trans here.symm)]
          · rw [beq_false_of_ne here]
            exact ih

/-- After a write the file has the new content, and all others have theirs. -/
theorem content?_put (memory : Memory) (path content : String) (key : List Component) :
    (memory.put path content).content? key =
      if Path.components path = key then some content else memory.content? key :=
  find?_insertFile ⟨path, content⟩ memory.files key

theorem occupied_put (memory : Memory) (path content : String) (key : List Component) :
    (memory.put path content).occupied key = true ↔
      Path.components path = key ∨ memory.occupied key = true := by
  rw [occupied, content?_put]
  by_cases same : Path.components path = key
  · simp [same]
  · rw [if_neg same]
    simp [same, occupied, put]

theorem read?_put (memory : Memory) (path content : String) :
    (memory.put path content).read? path = some content := by
  rw [read?, content?_put, if_pos rfl]

/-- A write loses no file. -/
theorem isSome_content?_put {key : List Component} (path content : String)
    (there : (memory.content? key).isSome = true) :
    ((memory.put path content).content? key).isSome = true := by
  rw [content?_put]
  split
  · rfl
  · exact there

/-- Removing a file that was not there before it was written gives the former files back. -/
theorem filter_insertFile {file : StoredFile} {files : List StoredFile}
    (absent : ∀ other ∈ files, other.key ≠ file.key) :
    (insertFile file files).filter (·.key != file.key) = files := by
  have keep : files.filter (·.key != file.key) = files :=
    List.filter_eq_self.mpr fun other member => bne_iff_ne.mpr (absent other member)
  induction files with
  | nil => simp [insertFile]
  | cons first files ih =>
      have others : ∀ other ∈ files, other.key ≠ file.key := fun other member =>
        absent other (List.mem_cons_of_mem first member)
      have different := absent first List.mem_cons_self
      rw [insertFile, if_neg different.symm]
      by_cases before : Component.listLess file.key first.key = true
      · rw [if_pos before, List.filter_cons, if_neg (by simp), keep]
      · rw [if_neg before, List.filter_cons, if_pos (bne_iff_ne.mpr different), ih others]
        exact List.filter_eq_self.mpr fun other member => bne_iff_ne.mpr (others other member)

theorem remove_put (absent : memory.content? (Path.components path) = none) (content : String) :
    (memory.put path content).remove path = .ok memory := by
  have apart : ∀ file ∈ memory.files, file.key ≠ Path.components path := by
    rw [content?, Option.map_eq_none_iff, List.find?_eq_none] at absent
    intro file member same
    exact absent file member (beq_iff_eq.mpr same)
  have restored := @filter_insertFile ⟨path, content⟩ memory.files apart
  rw [remove, read?_put]
  exact congrArg (fun files => Except.ok { memory with files := files }) restored

/-! ## Directories -/

theorem mem_directories_createDirectories (memory : Memory) (path : String)
    (key : List Component) :
    key ∈ (memory.createDirectories path).directories ↔
      key ∈ memory.directories ∨ key ∈ Path.prefixesOf (Path.components path) := by
  rw [createDirectories, List.mem_append, List.mem_filter, Bool.not_eq_true', ← Bool.not_eq_true,
    List.contains_iff_mem]
  constructor
  · rintro (there | ⟨above, -⟩)
    · exact .inl there
    · exact .inr above
  · rintro (there | above)
    · exact .inl there
    · by_cases there : key ∈ memory.directories
      · exact .inl there
      · exact .inr ⟨above, there⟩

theorem content?_createDirectories (memory : Memory) (path : String) (key : List Component) :
    (memory.createDirectories path).content? key = memory.content? key :=
  rfl

theorem occupied_createDirectories (memory : Memory) (path : String) (key : List Component) :
    (memory.createDirectories path).occupied key = true ↔
      memory.occupied key = true ∨ key ∈ Path.prefixesOf (Path.components path) := by
  rw [occupied, Bool.or_eq_true, List.contains_iff_mem, mem_directories_createDirectories,
    content?_createDirectories, occupied, Bool.or_eq_true, List.contains_iff_mem, or_assoc]

end Imprint.Storage.Memory
