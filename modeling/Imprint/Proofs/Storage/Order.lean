import Imprint.Proofs.Storage.Memory

/-!
# The order in which files are written

Storage keeps its files in the order of their components.  That order is total, so files with
different components can be written one after the other in either order, and storage is the same.
-/

namespace Imprint.Storage

/-! ## The order of components -/

namespace Component

variable {first second third : Component}

theorem less_iff : first.less second = true ↔
    first.rank < second.rank ∨ ∃ one two, first = .name one ∧ second = .name two ∧ one < two := by
  cases first <;> cases second <;> simp [less, rank]

theorem less_irrefl (component : Component) : component.less component = false := by
  cases component <;> simp [less, rank]

theorem less_trans (before : first.less second = true) (behind : second.less third = true) :
    first.less third = true := by
  rw [less_iff] at before behind ⊢
  rcases before with before | ⟨one, two, rfl, rfl, before⟩
  · rcases behind with behind | ⟨two, three, rfl, rfl, behind⟩
    · exact .inl (Nat.lt_trans before behind)
    · exact .inl before
  · rcases behind with behind | ⟨two, three, same, rfl, behind⟩
    · exact .inl behind
    · cases same
      exact .inr ⟨one, three, rfl, rfl, String.lt_trans before behind⟩

theorem less_total (first second : Component) :
    first.less second = true ∨ first = second ∨ second.less first = true := by
  cases first with
  | name one =>
      cases second with
      | name two =>
          rcases Std.lt_trichotomy one two with before | rfl | behind
          · exact .inl (less_iff.mpr (.inr ⟨one, two, rfl, rfl, before⟩))
          · exact .inr (.inl rfl)
          · exact .inr (.inr (less_iff.mpr (.inr ⟨two, one, rfl, rfl, behind⟩)))
      | root | current | parent => exact .inr (.inr rfl)
  | root | current | parent => cases second <;> simp [less, rank]

/-! ## The order of lists of components -/

variable {firsts seconds thirds : List Component}

theorem listLess_cons_iff :
    listLess (first :: firsts) (second :: seconds) = true ↔
      first.less second = true ∨ first = second ∧ listLess firsts seconds = true := by
  rw [listLess]
  by_cases same : first = second
  · rw [if_pos same, same, less_irrefl]
    simp
  · rw [if_neg same]
    simp [same]

theorem listLess_irrefl (components : List Component) : listLess components components = false := by
  induction components with
  | nil => rfl
  | cons first rest ih => rw [listLess, if_pos rfl, ih]

theorem listLess_trans (before : listLess firsts seconds = true)
    (behind : listLess seconds thirds = true) : listLess firsts thirds = true := by
  induction firsts generalizing seconds thirds with
  | nil =>
      cases seconds with
      | nil => contradiction
      | cons second seconds =>
          cases thirds with
          | nil => contradiction
          | cons third thirds => rfl
  | cons first firsts ih =>
      cases seconds with
      | nil => contradiction
      | cons second seconds =>
          cases thirds with
          | nil => contradiction
          | cons third thirds =>
              rw [listLess_cons_iff] at before behind ⊢
              rcases before with before | ⟨rfl, before⟩
              · rcases behind with behind | ⟨rfl, behind⟩
                · exact .inl (less_trans before behind)
                · exact .inl before
              · exact behind.imp_right fun ⟨same, behind⟩ => ⟨same, ih before behind⟩

theorem listLess_total (firsts seconds : List Component) :
    listLess firsts seconds = true ∨ firsts = seconds ∨ listLess seconds firsts = true := by
  induction firsts generalizing seconds with
  | nil =>
      cases seconds with
      | nil => exact .inr (.inl rfl)
      | cons second seconds => exact .inl rfl
  | cons first firsts ih =>
      cases seconds with
      | nil => exact .inr (.inr rfl)
      | cons second seconds =>
          rcases less_total first second with before | rfl | behind
          · exact .inl (listLess_cons_iff.mpr (.inl before))
          · rcases ih seconds with before | rfl | behind
            · exact .inl (listLess_cons_iff.mpr (.inr ⟨rfl, before⟩))
            · exact .inr (.inl rfl)
            · exact .inr (.inr (listLess_cons_iff.mpr (.inr ⟨rfl, behind⟩)))
          · exact .inr (.inr (listLess_cons_iff.mpr (.inl behind)))

theorem ne_of_listLess (before : listLess firsts seconds = true) : firsts ≠ seconds := by
  rintro rfl
  rw [listLess_irrefl] at before
  contradiction

theorem listLess_asymm (before : listLess firsts seconds = true) :
    ¬ listLess seconds firsts = true := fun behind =>
  ne_of_listLess (listLess_trans before behind) rfl

end Component

/-! ## Two files -/

namespace Memory

open Component (listLess listLess_total listLess_trans ne_of_listLess listLess_asymm)

variable {file first : StoredFile} {rest files : List StoredFile}

theorem insertFile_of_eq (same : file.key = first.key) :
    insertFile file (first :: rest) = { first with content := file.content } :: rest := by
  rw [insertFile, if_pos same]

theorem insertFile_of_before (before : listLess file.key first.key = true) :
    insertFile file (first :: rest) = file :: first :: rest := by
  rw [insertFile, if_neg (ne_of_listLess before), if_pos before]

theorem insertFile_of_behind (behind : listLess first.key file.key = true) :
    insertFile file (first :: rest) = first :: insertFile file rest := by
  rw [insertFile, if_neg (ne_of_listLess behind).symm, if_neg (listLess_asymm behind)]

theorem insertFile_comm_of_before {lower upper : StoredFile}
    (before : listLess lower.key upper.key = true) (files : List StoredFile) :
    insertFile lower (insertFile upper files) = insertFile upper (insertFile lower files) := by
  -- The lower file is met first, and the upper one passes it.
  have passes : ∀ rest : List StoredFile,
      insertFile upper (lower :: rest) = lower :: insertFile upper rest :=
    fun _ => insertFile_of_behind before
  induction files with
  | nil => rw [insertFile, insertFile, passes, insertFile, insertFile_of_before before]
  | cons first rest ih =>
      rcases listLess_total upper.key first.key with upperBefore | same | upperBehind
      · have lowerBefore := listLess_trans before upperBefore
        rw [insertFile_of_before upperBefore, insertFile_of_before before,
          insertFile_of_before lowerBefore, passes, insertFile_of_before upperBefore]
      · have lowerBefore : listLess lower.key first.key = true := same ▸ before
        rw [insertFile_of_eq same, insertFile_of_before lowerBefore, passes, insertFile_of_eq same]
        exact insertFile_of_before lowerBefore
      · rw [insertFile_of_behind upperBehind]
        rcases listLess_total lower.key first.key with lowerBefore | same | lowerBehind
        · rw [insertFile_of_before lowerBefore, insertFile_of_before lowerBefore, passes,
            insertFile_of_behind upperBehind]
        · have passesReplaced : insertFile upper ({ first with content := lower.content } :: rest) =
              { first with content := lower.content } :: insertFile upper rest :=
            insertFile_of_behind upperBehind
          rw [insertFile_of_eq same, insertFile_of_eq same, passesReplaced]
        · rw [insertFile_of_behind lowerBehind, insertFile_of_behind lowerBehind,
            insertFile_of_behind upperBehind, ih]

/-- Files with different components can be inserted in either order. -/
theorem insertFile_comm {one two : StoredFile} (different : one.key ≠ two.key)
    (files : List StoredFile) :
    insertFile one (insertFile two files) = insertFile two (insertFile one files) := by
  rcases listLess_total one.key two.key with before | same | behind
  · exact insertFile_comm_of_before before files
  · contradiction
  · exact (insertFile_comm_of_before behind files).symm

/-- Files at different places can be written in either order. -/
theorem put_comm (memory : Memory) {one two : String}
    (different : Path.components one ≠ Path.components two) (first second : String) :
    (memory.put one first).put two second = (memory.put two second).put one first :=
  congrArg (fun files => { memory with files })
    (@insertFile_comm ⟨two, second⟩ ⟨one, first⟩ different.symm memory.files)

/-- Directories and files do not get in each other's way. -/
theorem createDirectories_put (memory : Memory) (directory path content : String) :
    (memory.put path content).createDirectories directory =
      (memory.createDirectories directory).put path content :=
  rfl

/-- A directory that is there is not created again. -/
theorem createDirectories_idem (memory : Memory) (directory : String) :
    (memory.createDirectories directory).createDirectories directory =
      memory.createDirectories directory := by
  have nothing : (Path.prefixesOf (Path.components directory)).filter (fun above =>
      !(memory.createDirectories directory).directories.contains above) = [] := by
    rw [List.filter_eq_nil_iff]
    intro above listed
    have there := (mem_directories_createDirectories memory directory above).mpr (.inr listed)
    simpa using there
  rw [createDirectories, nothing, List.append_nil]

end Memory

end Imprint.Storage
