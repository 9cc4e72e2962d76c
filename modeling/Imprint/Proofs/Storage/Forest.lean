import Imprint.Proofs.Storage.Parent
import Imprint.Storage.Disk

/-!
# Trees of directories and files

What stands side by side in a directory, and the list of places that a disk keeps of it.  The files
below a directory are listed depth-first, siblings in the order of their names, and the path of a
directory joined with the names below it leads to what is there.
-/

namespace Imprint.Storage

/-- What stands side by side in a directory. -/
inductive Forest where
  | nil
  | file (name : String) (content : Option String) (rest : Forest)
  | directory (name : String) (inside rest : Forest)

/-- Whether a text can be the name of a file or a directory. -/
structure IsName (name : String) : Prop where
  nonempty : name ≠ ""
  noSlash : '/' ∉ name.toList
  noNul : '\x00' ∉ name.toList
  noDot : name ≠ "."
  noDots : name ≠ ".."
  short : name.utf8ByteSize ≤ Disk.maxNameBytes

instance (name : String) : Decidable (IsName name) :=
  decidable_of_iff
    (name ≠ "" ∧ '/' ∉ name.toList ∧ '\x00' ∉ name.toList ∧ name ≠ "." ∧ name ≠ ".." ∧
      name.utf8ByteSize ≤ Disk.maxNameBytes)
    ⟨fun ⟨nonempty, noSlash, noNul, noDot, noDots, short⟩ =>
        ⟨nonempty, noSlash, noNul, noDot, noDots, short⟩,
      fun isName => ⟨isName.nonempty, isName.noSlash, isName.noNul, isName.noDot, isName.noDots,
        isName.short⟩⟩

namespace Forest

variable {forest inside sub : Forest} {place : Place} {name : String}

/-- The names side by side. -/
def names : Forest → List String
  | nil => []
  | file name _ rest => name :: rest.names
  | directory name _ rest => name :: rest.names

/-- Whether all names can be names and siblings stand in the order of their names. -/
def WellFormed : Forest → Prop
  | nil => True
  | file name _ rest => IsName name ∧ (∀ other ∈ rest.names, name < other) ∧ rest.WellFormed
  | directory name inside rest =>
      IsName name ∧ (∀ other ∈ rest.names, name < other) ∧ inside.WellFormed ∧ rest.WellFormed

/-- Whether a forest is well-formed can be found out name by name. -/
def decideWellFormed : (forest : Forest) → Decidable forest.WellFormed
  | nil => .isTrue trivial
  | file name _ rest =>
      have := rest.decideWellFormed
      inferInstanceAs (Decidable
        (IsName name ∧ (∀ other ∈ rest.names, name < other) ∧ rest.WellFormed))
  | directory name inside rest =>
      have := inside.decideWellFormed
      have := rest.decideWellFormed
      inferInstanceAs (Decidable (IsName name ∧ (∀ other ∈ rest.names, name < other) ∧
        inside.WellFormed ∧ rest.WellFormed))

instance (forest : Forest) : Decidable forest.WellFormed := forest.decideWellFormed

/-- The places of all directories and files, directories before what they hold. -/
def entries : Forest → List (Place × Entry)
  | nil => []
  | file name content rest => ([name], .file content) :: rest.entries
  | directory name inside rest =>
      ([name], .directory) ::
        (inside.entries.map fun (place, entry) => (name :: place, entry)) ++ rest.entries

/-- The places of all files and what they hold, depth-first and in the order of siblings. -/
def files : Forest → List (Place × Option String)
  | nil => []
  | file name content rest => ([name], content) :: rest.files
  | directory name inside rest =>
      (inside.files.map fun (place, content) => (name :: place, content)) ++ rest.files

/-- What the directory at a place holds. -/
def directoryAt? : Forest → Place → Option Forest
  | forest, [] => some forest
  | nil, _ :: _ => none
  | file _ _ rest, first :: others => rest.directoryAt? (first :: others)
  | directory name inside rest, first :: others =>
      if name = first then inside.directoryAt? others else rest.directoryAt? (first :: others)

/-- The disk that holds a forest. -/
def disk (forest : Forest) (current : Place) : Disk := ⟨forest.entries, current⟩

/-! ## Entries -/

/-- Every place begins with a name that stands at the top. -/
theorem exists_cons_of_mem_entries {entry : Entry} (listed : (place, entry) ∈ forest.entries) :
    ∃ first others, place = first :: others ∧ first ∈ forest.names := by
  induction forest with
  | nil => contradiction
  | file name content rest ih =>
      rcases List.mem_cons.mp listed with here | listed
      · cases here
        exact ⟨name, [], rfl, List.mem_cons_self⟩
      · obtain ⟨first, others, parts, named⟩ := ih listed
        exact ⟨first, others, parts, List.mem_cons_of_mem name named⟩
  | directory name inside rest ihInside ihRest =>
      rcases List.mem_append.mp listed with within | listed
      · rcases List.mem_cons.mp within with here | within
        · cases here
          exact ⟨name, [], rfl, List.mem_cons_self⟩
        · obtain ⟨⟨below, entry⟩, -, same⟩ := List.mem_map.mp within
          cases same
          exact ⟨name, below, rfl, List.mem_cons_self⟩
      · obtain ⟨first, others, parts, named⟩ := ihRest listed
        exact ⟨first, others, parts, List.mem_cons_of_mem name named⟩

/-- A place that is listed behind all that begins with a name does not begin with it. -/
theorem exists_cons_of_mem_rest {rest : Forest} {entry : Entry}
    (later : ∀ other ∈ rest.names, name < other) (listed : (place, entry) ∈ rest.entries) :
    ∃ first others, place = first :: others ∧ name ≠ first := by
  obtain ⟨first, others, parts, named⟩ := exists_cons_of_mem_entries listed
  exact ⟨first, others, parts, String.ne_of_lt (later first named)⟩

theorem lookup_map_cons (name first : String) (others : Place) (entries : List (Place × Entry)) :
    (entries.map fun (place, entry) => (name :: place, entry)).lookup (first :: others) =
      if name = first then entries.lookup others else none := by
  induction entries with
  | nil => simp
  | cons entry entries ih =>
      obtain ⟨place, entry⟩ := entry
      rw [List.map_cons, List.lookup_cons, List.lookup_cons, ih, List.cons_beq_cons]
      by_cases same : name = first
      · simp [same]
      · have different : (first == name) = false := beq_eq_false_iff_ne.mpr (Ne.symm same)
        simp [same, different]

/-- Every place is listed once. -/
theorem lookup_of_mem {entry : Entry} (wellFormed : forest.WellFormed)
    (listed : (place, entry) ∈ forest.entries) : forest.entries.lookup place = some entry := by
  induction forest generalizing place with
  | nil => contradiction
  | file name content rest ih =>
      obtain ⟨-, later, wellFormed⟩ := wellFormed
      rcases List.mem_cons.mp listed with here | listed
      · cases here
        exact List.lookup_cons_self
      · obtain ⟨first, others, rfl, different⟩ := exists_cons_of_mem_rest later listed
        have other : (first :: others == [name]) = false := by simp [Ne.symm different]
        rw [entries, List.lookup_cons, other]
        exact ih wellFormed listed
  | directory name inside rest ihInside ihRest =>
      obtain ⟨-, later, wellFormedInside, wellFormedRest⟩ := wellFormed
      rw [entries, List.cons_append] at listed ⊢
      rcases List.mem_cons.mp listed with here | listed
      · cases here
        exact List.lookup_cons_self
      · rcases List.mem_append.mp listed with within | listed
        · obtain ⟨⟨below, entry⟩, member, same⟩ := List.mem_map.mp within
          cases same
          obtain ⟨first, others, rfl, -⟩ := exists_cons_of_mem_entries member
          have deeper : (name :: first :: others == [name]) = false := by simp
          rw [List.lookup_cons, deeper, List.lookup_append, lookup_map_cons, if_pos rfl,
            ihInside wellFormedInside member]
          rfl
        · obtain ⟨first, others, rfl, different⟩ := exists_cons_of_mem_rest later listed
          have other : (first :: others == [name]) = false := by simp [Ne.symm different]
          rw [List.lookup_cons, other, List.lookup_append, lookup_map_cons, if_neg different]
          exact ihRest wellFormedRest listed

theorem entry?_of_mem {entry : Entry} (wellFormed : forest.WellFormed) (current : Place)
    (listed : (place, entry) ∈ forest.entries) :
    Disk.entry? (forest.disk current) place = some entry := by
  obtain ⟨first, others, rfl, -⟩ := exists_cons_of_mem_entries listed
  exact lookup_of_mem wellFormed listed

/-! ## Directories -/

@[simp]
theorem directoryAt?_nil (forest : Forest) : forest.directoryAt? [] = some forest := by
  cases forest <;> rfl

theorem directoryAt?_append (forest : Forest) (place below : Place) :
    forest.directoryAt? (place ++ below) =
      (forest.directoryAt? place).bind fun sub => sub.directoryAt? below := by
  fun_induction directoryAt? forest place with
  | case1 forest => rfl
  | case2 first others => rfl
  | case3 name content rest first others ih => exact ih
  | case4 inside rest first others ih => rw [List.cons_append, directoryAt?, if_pos rfl, ih]
  | case5 name inside rest first others other ih =>
      rw [List.cons_append, directoryAt?, if_neg other, ← List.cons_append, ih]

/-- A directory stands in a directory. -/
theorem directoryAt?_dropLast (found : forest.directoryAt? place = some sub) :
    ∃ above, forest.directoryAt? place.dropLast = some above := by
  by_cases top : place = []
  · exact ⟨sub, top ▸ found⟩
  · rw [← List.dropLast_concat_getLast top, directoryAt?_append] at found
    obtain ⟨above, found, -⟩ := Option.bind_eq_some_iff.mp found
    exact ⟨above, found⟩

theorem wellFormed_directoryAt? (wellFormed : forest.WellFormed)
    (found : forest.directoryAt? place = some sub) : sub.WellFormed := by
  fun_induction directoryAt? forest place with
  | case1 forest =>
      cases found
      exact wellFormed
  | case2 first others => contradiction
  | case3 name content rest first others ih => exact ih wellFormed.2.2 found
  | case4 inside rest first others ih => exact ih wellFormed.2.2.1 found
  | case5 name inside rest first others other ih => exact ih wellFormed.2.2.2 found

/-- What a directory holds is listed at the place of the directory. -/
theorem append_mem_entries {below : Place} {entry : Entry}
    (found : forest.directoryAt? place = some sub) (listed : (below, entry) ∈ sub.entries) :
    (place ++ below, entry) ∈ forest.entries := by
  fun_induction directoryAt? forest place with
  | case1 forest =>
      cases found
      exact listed
  | case2 first others => contradiction
  | case3 name content rest first others ih => exact List.mem_cons_of_mem _ (ih found)
  | case4 inside rest first others ih =>
      exact List.mem_append_left _ (List.mem_cons_of_mem _
        (List.mem_map.mpr ⟨_, ih found, rfl⟩))
  | case5 name inside rest first others other ih => exact List.mem_append_right _ (ih found)

/-- A place that is listed as a directory is one. -/
theorem exists_directoryAt?_of_mem (wellFormed : forest.WellFormed)
    (listed : (place, .directory) ∈ forest.entries) :
    ∃ sub, forest.directoryAt? place = some sub := by
  induction forest generalizing place with
  | nil => contradiction
  | file name content rest ih =>
      rcases List.mem_cons.mp listed with here | listed
      · cases here
      · obtain ⟨first, others, rfl, -⟩ := exists_cons_of_mem_entries listed
        exact ih wellFormed.2.2 listed
  | directory name inside rest ihInside ihRest =>
      obtain ⟨-, later, wellFormedInside, wellFormedRest⟩ := wellFormed
      rcases List.mem_append.mp listed with within | listed
      · rcases List.mem_cons.mp within with here | within
        · cases here
          exact ⟨_, by rw [directoryAt?, if_pos rfl, directoryAt?_nil]⟩
        · obtain ⟨⟨below, entry⟩, member, same⟩ := List.mem_map.mp within
          cases same
          rw [directoryAt?, if_pos rfl]
          exact ihInside wellFormedInside member
      · obtain ⟨first, others, rfl, different⟩ := exists_cons_of_mem_rest later listed
        rw [directoryAt?, if_neg different]
        exact ihRest wellFormedRest listed

/-- A directory is listed, apart from the root. -/
theorem mem_entries_of_directoryAt? (inner : place ≠ [])
    (found : forest.directoryAt? place = some sub) : (place, .directory) ∈ forest.entries := by
  fun_induction directoryAt? forest place with
  | case1 forest => contradiction
  | case2 first others => contradiction
  | case3 name content rest first others ih => exact List.mem_cons_of_mem _ (ih inner found)
  | case4 inside rest first others ih =>
      cases others with
      | nil => exact List.mem_append_left _ List.mem_cons_self
      | cons next others =>
          exact List.mem_append_left _ (List.mem_cons_of_mem _
            (List.mem_map.mpr ⟨_, ih (List.cons_ne_nil next others) found, rfl⟩))
  | case5 name inside rest first others other ih =>
      exact List.mem_append_right _ (ih inner found)

theorem entry?_eq_directory_iff (wellFormed : forest.WellFormed) (current : Place) :
    Disk.entry? (forest.disk current) place = some .directory ↔
      ∃ sub, forest.directoryAt? place = some sub := by
  by_cases root : place = []
  · subst root
    exact ⟨fun _ => ⟨forest, directoryAt?_nil forest⟩, fun _ => rfl⟩
  · constructor
    · intro entry
      have present : ¬ place.isEmpty = true := by simpa using root
      unfold Disk.entry? at entry
      rw [if_neg present] at entry
      obtain ⟨before, after, parts, -⟩ := List.lookup_eq_some_iff.mp entry
      have listed : (place, .directory) ∈ (forest.disk current).entries :=
        parts ▸ List.mem_append_right before List.mem_cons_self
      exact exists_directoryAt?_of_mem wellFormed listed
    · rintro ⟨sub, found⟩
      exact entry?_of_mem wellFormed current (mem_entries_of_directoryAt? root found)

/-! ## Files below a directory -/

/-- The files among entries that are below a place, as names from there on. -/
def filesAmong (place : Place) (entries : List (Place × Entry)) : List Place :=
  (⟨entries, []⟩ : Disk).filesBelow place

theorem filesAmong_append (place : Place) (first second : List (Place × Entry)) :
    filesAmong place (first ++ second) = filesAmong place first ++ filesAmong place second :=
  List.filterMap_append

theorem filesAmong_cons (place : Place) (first : Place × Entry) (rest : List (Place × Entry)) :
    filesAmong place (first :: rest) = filesAmong place [first] ++ filesAmong place rest :=
  filesAmong_append place [first] rest

/-- Entries in a directory are below it like they are below the root of the directory. -/
theorem filesAmong_map_cons (first name : String) (others : Place)
    (entries : List (Place × Entry)) :
    filesAmong (first :: others) (entries.map fun (place, entry) => (name :: place, entry)) =
      if first = name then filesAmong others entries else [] := by
  rw [filesAmong, Disk.filesBelow, List.filterMap_map]
  by_cases same : first = name
  · subst same
    rw [if_pos rfl]
    refine List.filterMap_congr fun entry _ => ?_
    simp
  · rw [if_neg same, List.filterMap_eq_nil_iff]
    intro entry _
    simp [same]

theorem filesAmong_nil_map_cons (name : String) (entries : List (Place × Entry)) :
    filesAmong [] (entries.map fun (place, entry) => (name :: place, entry)) =
      (filesAmong [] entries).map (name :: ·) := by
  rw [filesAmong, filesAmong, Disk.filesBelow, Disk.filesBelow, List.filterMap_map,
    List.map_filterMap]
  refine List.filterMap_congr fun entry _ => ?_
  by_cases isDirectory : entry.2 = .directory <;> simp [isDirectory]

theorem filesAmong_eq_nil {first : String} {others : Place} (absent : first ∉ forest.names) :
    filesAmong (first :: others) forest.entries = [] := by
  rw [filesAmong, Disk.filesBelow, List.filterMap_eq_nil_iff]
  rintro ⟨place, entry⟩ listed
  obtain ⟨head, tail, rfl, named⟩ := exists_cons_of_mem_entries listed
  have different : first ≠ head := by
    rintro rfl
    exact absent named
  simp [different]

/-- All files are below the root. -/
theorem filesAmong_root (forest : Forest) :
    filesAmong [] forest.entries = forest.files.map Prod.fst := by
  induction forest with
  | nil => rfl
  | file name content rest ih =>
      have single : filesAmong [] [([name], .file content)] = [[name]] := rfl
      rw [entries, filesAmong_cons, single, ih, files, List.map_cons, List.singleton_append]
  | directory name inside rest ihInside ihRest =>
      have single : filesAmong [] [([name], .directory)] = [] := rfl
      rw [entries, filesAmong_append, filesAmong_cons, single, filesAmong_nil_map_cons, ihInside,
        ihRest, files, List.map_append, List.map_map, List.map_map, List.nil_append]
      rfl

/-- The files below a directory are those of what it holds, in their order. -/
theorem filesBelow_eq (wellFormed : forest.WellFormed) (current : Place)
    (found : forest.directoryAt? place = some sub) :
    (forest.disk current).filesBelow place = sub.files.map Prod.fst := by
  suffices among : filesAmong place forest.entries = sub.files.map Prod.fst from among
  fun_induction directoryAt? forest place with
  | case1 forest =>
      cases found
      exact filesAmong_root _
  | case2 first others => contradiction
  | case3 name content rest first others ih =>
      have different : first ≠ name := by
        rintro rfl
        have listed : (first :: others, .directory) ∈ rest.entries :=
          mem_entries_of_directoryAt? (List.cons_ne_nil first others) found
        obtain ⟨head, tail, parts, other⟩ := exists_cons_of_mem_rest wellFormed.2.1 listed
        exact other (List.cons.inj parts).1
      have single : filesAmong (first :: others) [([name], .file content)] = [] :=
        (filesAmong_map_cons first name others [([], .file content)]).trans (if_neg different)
      rw [entries, filesAmong_cons, single]
      exact ih wellFormed.2.2 found
  | case4 inside rest name others ih =>
      obtain ⟨-, later, wellFormedInside, -⟩ := wellFormed
      have single : filesAmong (name :: others) [([name], .directory)] = [] := rfl
      have absent : name ∉ rest.names := fun listed => String.lt_irrefl name (later name listed)
      rw [entries, filesAmong_append, filesAmong_cons, single, filesAmong_map_cons, if_pos rfl,
        List.nil_append, filesAmong_eq_nil absent, List.append_nil]
      exact ih wellFormedInside found
  | case5 name inside rest first others other ih =>
      obtain ⟨-, -, -, wellFormedRest⟩ := wellFormed
      have single : filesAmong (first :: others) [([name], .directory)] = [] := rfl
      rw [entries, filesAmong_append, filesAmong_cons, single, filesAmong_map_cons,
        if_neg (Ne.symm other), List.nil_append, List.nil_append]
      exact ih wellFormedRest found

end Forest
end Imprint.Storage
