import Imprint.Proofs.Storage.Forest

/-!
# Paths on disk

A path that leads to a directory, joined with names, leads to what has these names below the
directory.
-/

namespace Imprint.Storage

namespace Path

/-- The names that a path is followed by. -/
def pieces (path : String) : List String :=
  ((splitSlash path.toList).filter fun piece => !piece.isEmpty).map String.ofList

variable {directory name : String}

theorem toList_ne_nil {text : String} (nonempty : text ≠ "") : text.toList ≠ [] := fun empty =>
  nonempty (String.toList_eq_nil_iff.mp empty)

theorem isAbsolute_eq_false (isName : IsName name) : isAbsolute name = false := by
  have noSlash := isName.noSlash
  rw [isAbsolute]
  cases text : name.toList with
  | nil => rfl
  | cons c rest =>
      rw [text] at noSlash
      simp [Ne.symm (List.ne_of_not_mem_cons noSlash)]

/-- A name is joined to a directory with a single slash. -/
theorem join_eq (nonempty : directory ≠ "") (isName : IsName name) :
    join directory name =
      if directory.toList.getLast? == some '/' then directory ++ name
      else directory ++ "/" ++ name := by
  have present : directory.isEmpty = false := by simpa using nonempty
  rw [join, isAbsolute_eq_false isName, present, Bool.or_self, if_neg (by decide)]

theorem pieces_join (nonempty : directory ≠ "") (isName : IsName name) :
    pieces (join directory name) = pieces directory ++ [name] := by
  have single : (splitSlash name.toList).filter (fun piece => !piece.isEmpty) = [name.toList] := by
    rw [splitSlash_piece isName.noSlash]
    simp [toList_ne_nil isName.nonempty]
  rw [join_eq nonempty isName]
  split
  · next slash =>
      obtain ⟨front, ends⟩ := List.getLast?_eq_some_iff.mp (by simpa using slash)
      have joined : (directory ++ name).toList = front ++ '/' :: name.toList := by
        simp [ends]
      have alone : directory.toList = front ++ '/' :: [] := ends
      rw [pieces, pieces, joined, alone, splitSlash_append_slash, splitSlash_append_slash,
        List.filter_append, List.filter_append, single]
      simp [splitSlash]
  · have joined : (directory ++ "/" ++ name).toList =
        directory.toList ++ '/' :: name.toList := by
      simp
    rw [pieces, pieces, joined, splitSlash_append_slash, List.filter_append, single]
    simp

theorem isAbsolute_join (nonempty : directory ≠ "") (isName : IsName name) :
    isAbsolute (join directory name) = isAbsolute directory := by
  obtain ⟨c, rest, text⟩ := List.exists_cons_of_ne_nil (toList_ne_nil nonempty)
  rw [join_eq nonempty isName]
  split <;> simp [isAbsolute, text]

theorem getLast?_join (nonempty : directory ≠ "") (isName : IsName name) :
    (join directory name).toList.getLast? ≠ some '/' := by
  have last : ∀ front : List Char, (front ++ name.toList).getLast? ≠ some '/' := by
    intro front same
    rw [List.getLast?_append_of_ne_nil _ (toList_ne_nil isName.nonempty)] at same
    exact isName.noSlash (List.mem_of_getLast? same)
  rw [join_eq nonempty isName]
  split
  · rw [String.toList_append]
    exact last _
  · rw [String.toList_append]
    exact last _

theorem join_ne_empty (isName : IsName name) : join directory name ≠ "" := by
  have present := isName.nonempty
  rw [join]
  split
  · exact present
  · split <;> simp [present]

theorem noNul_join (noNul : '\x00' ∉ directory.toList) (isName : IsName name) :
    '\x00' ∉ (join directory name).toList := by
  have name := isName.noNul
  rw [join]
  split
  · exact name
  · split <;> simp [noNul, name]

theorem size_le_size_join (isName : IsName name) :
    directory.utf8ByteSize ≤ (join directory name).utf8ByteSize := by
  rw [join, isAbsolute_eq_false isName, Bool.false_or]
  split
  · next empty => simp_all
  · split
    · rw [String.utf8ByteSize_append]
      omega
    · rw [String.utf8ByteSize_append, String.utf8ByteSize_append]
      omega

theorem size_le_size_foldl_join {names : List String} (areNames : ∀ name ∈ names, IsName name)
    (directory : String) :
    directory.utf8ByteSize ≤ (names.foldl join directory).utf8ByteSize := by
  induction names generalizing directory with
  | nil => exact Nat.le_refl _
  | cons name names ih =>
      exact Nat.le_trans (size_le_size_join (areNames name List.mem_cons_self))
        (ih (fun other member => areNames other (List.mem_cons_of_mem name member)) _)

end Path

/-- Whether what a path leads to is the directory at a place. -/
def Target.LeadsTo (disk : Disk) (place : Place) : Target → Prop
  | .directory other => other = place
  | .child parent name _ =>
      disk.entry? (parent ++ [name]) = some .directory ∧ parent ++ [name] = place

namespace Disk

open Storage.Path (pieces join isAbsolute splitSlash)

variable {disk : Disk} {start place : Place} {directory name path : String}

/-- The directory that names are followed from. -/
def startOf (disk : Disk) (path : String) : Place :=
  if isAbsolute path then [] else disk.current

theorem isDirectory_iff :
    disk.isDirectory path = true ↔ ∃ place, disk.placeOf? path = some place := by
  rw [isDirectory, find, placeOf?]
  cases disk.resolve path with
  | error cause => simp [bind, Except.bind, Except.toOption]
  | ok target =>
      cases target with
      | directory place => simp [bind, Except.bind, pure, Except.pure, Except.toOption]
      | child parent name slash =>
          simp only [bind, Except.bind]
          cases found : disk.entry? (parent ++ [name]) with
          | none => simp [Except.toOption]
          | some entry =>
              cases entry with
              | directory => simp [pure, Except.pure, Except.toOption]
              | file content =>
                  cases slash <;> simp [pure, Except.pure, Except.toOption]

theorem placeOf?_eq_some_iff :
    disk.placeOf? path = some place ↔
      ∃ target, disk.resolve path = .ok target ∧ target.LeadsTo disk place := by
  rw [placeOf?]
  cases disk.resolve path with
  | error cause => simp
  | ok target =>
      cases target with
      | directory other => simp [Target.LeadsTo]
      | child parent name slash => simp [Target.LeadsTo]

theorem resolve_eq (noNul : '\x00' ∉ path.toList) (nonempty : path ≠ "")
    (short : path.utf8ByteSize ≤ maxPathBytes) :
    disk.resolve path =
      disk.walk (path.toList.getLast? == some '/') (disk.startOf path) (pieces path) := by
  have long : ¬ maxPathBytes < path.utf8ByteSize := by omega
  have present : path.toList.isEmpty = false := by simpa using nonempty
  rw [resolve, if_neg (by simpa using noNul), present, if_neg (by decide), if_neg long]
  rfl

theorem resolve_of_ok {target : Target} (resolved : disk.resolve path = .ok target) :
    '\x00' ∉ path.toList ∧ path ≠ "" ∧ path.utf8ByteSize ≤ maxPathBytes := by
  rw [resolve] at resolved
  split at resolved
  · contradiction
  · next noNul =>
      split at resolved
      · contradiction
      · next nonempty =>
          split at resolved
          · contradiction
          · next short =>
              refine ⟨by simpa using noNul, ?_, by omega⟩
              rintro rfl
              exact nonempty rfl

/-! ## Names in a row -/

/-- Names of which only the last may lead to something else than a directory are followed one by
one. -/
theorem walk_append_singleton (slash : Bool) (start : Place) (names : List String)
    (name : String) :
    disk.walk slash start (names ++ [name]) =
      (names.foldlM disk.follow start).bind fun place => disk.walk slash place [name] := by
  induction names generalizing start with
  | nil => rfl
  | cons first names ih =>
      have behind : ∃ next others, names ++ [name] = next :: others :=
        List.exists_cons_of_ne_nil (List.append_ne_nil_of_right_ne_nil names (List.cons_ne_nil _ _))
      obtain ⟨next, others, parts⟩ := behind
      rw [List.cons_append, parts, walk, ← parts, List.foldlM_cons]
      cases disk.follow start first with
      | error cause => rfl
      | ok place => exact ih place

/-- Names that lead to a directory can be followed to the end. -/
theorem foldlM_follow_of_walk {slash : Bool} {names : List String} {target : Target}
    (walked : disk.walk slash start names = .ok target) (leads : target.LeadsTo disk place) :
    names.foldlM disk.follow start = .ok place := by
  induction names generalizing start with
  | nil =>
      cases walked
      exact congrArg Except.ok leads
  | cons first names ih =>
      cases names with
      | nil =>
          have single : [first].foldlM disk.follow start = disk.follow start first := by
            rw [List.foldlM_cons]
            exact bind_pure _
          rw [single, follow]
          rw [walk] at walked
          split at walked
          · next dot =>
              cases walked
              rw [if_pos dot]
              exact congrArg Except.ok leads
          · next noDot =>
              split at walked
              · next dots =>
                  cases walked
                  rw [if_neg noDot, if_pos dots]
                  exact congrArg Except.ok leads
              · next noDots =>
                  split at walked
                  · contradiction
                  · next short =>
                      cases walked
                      obtain ⟨there, rfl⟩ := leads
                      rw [if_neg noDot, if_neg noDots, if_neg short, there]
      | cons next names =>
          rw [walk] at walked
          rw [List.foldlM_cons]
          cases followed : disk.follow start first with
          | error cause =>
              rw [followed] at walked
              contradiction
          | ok between =>
              rw [followed] at walked
              exact ih walked

/-! ## Joined paths -/

/-- A name joined to the path of a directory is looked for in the directory. -/
theorem resolve_join (leads : disk.placeOf? directory = some place) (isName : IsName name)
    (short : (join directory name).utf8ByteSize ≤ maxPathBytes) :
    disk.resolve (join directory name) = .ok (.child place name false) := by
  obtain ⟨target, resolved, leads⟩ := placeOf?_eq_some_iff.mp leads
  obtain ⟨noNul, nonempty, shortDirectory⟩ := resolve_of_ok resolved
  have long := isName.short
  have slash : ((join directory name).toList.getLast? == some '/') = false :=
    beq_eq_false_iff_ne.mpr (Path.getLast?_join nonempty isName)
  have start : disk.startOf (join directory name) = disk.startOf directory := by
    rw [startOf, startOf, Path.isAbsolute_join nonempty isName]
  rw [resolve_eq noNul nonempty shortDirectory] at resolved
  rw [resolve_eq (Path.noNul_join noNul isName) (Path.join_ne_empty isName) short, slash, start,
    Path.pieces_join nonempty isName, walk_append_singleton,
    foldlM_follow_of_walk resolved leads]
  show disk.walk false place [name] = _
  rw [walk, if_neg isName.noDot, if_neg isName.noDots, if_neg (by omega)]

theorem placeOf?_join (leads : disk.placeOf? directory = some place) (isName : IsName name)
    (short : (join directory name).utf8ByteSize ≤ maxPathBytes)
    (there : disk.entry? (place ++ [name]) = some .directory) :
    disk.placeOf? (join directory name) = some (place ++ [name]) :=
  placeOf?_eq_some_iff.mpr ⟨_, resolve_join leads isName short, there, rfl⟩

theorem readText_join {content : Option String} (leads : disk.placeOf? directory = some place)
    (isName : IsName name) (short : (join directory name).utf8ByteSize ≤ maxPathBytes)
    (there : disk.entry? (place ++ [name]) = some (.file content)) :
    (disk.readText (join directory name)).toOption = content := by
  have found : disk.find (join directory name) = .ok (.file content) := by
    rw [find, resolve_join leads isName short]
    simp only [bind, Except.bind, there, Bool.false_eq_true, if_false, pure, Except.pure]
  rw [readText, found]
  cases content <;> rfl

end Disk

namespace Forest

variable {forest sub : Forest} {place : Place} {directory : String}

/-- The names of a place are names. -/
theorem isName_of_mem_files {below : Place} {content : Option String}
    (wellFormed : sub.WellFormed) (listed : (below, content) ∈ sub.files) :
    ∀ name ∈ below, IsName name := by
  induction sub generalizing below with
  | nil => contradiction
  | file name content rest ih =>
      rcases List.mem_cons.mp listed with here | listed
      · cases here
        intro other member
        rw [List.mem_singleton.mp member]
        exact wellFormed.1
      · exact ih wellFormed.2.2 listed
  | directory name inside rest ihInside ihRest =>
      rcases List.mem_append.mp listed with within | listed
      · obtain ⟨⟨deeper, content⟩, member, same⟩ := List.mem_map.mp within
        cases same
        intro other named
        rcases List.mem_cons.mp named with rfl | named
        · exact wellFormed.1
        · exact ihInside wellFormed.2.2.1 member other named
      · exact ihRest wellFormed.2.2.2 listed

/-- The path of a directory, joined with the names of a file below it, leads to what the file
holds. -/
theorem readText_foldl_join {disk : Disk} {below : Place} {content : Option String}
    (wellFormed : sub.WellFormed) (leads : disk.placeOf? directory = some place)
    (there : ∀ other entry, (other, entry) ∈ sub.entries →
      disk.entry? (place ++ other) = some entry)
    (listed : (below, content) ∈ sub.files)
    (short : (below.foldl Path.join directory).utf8ByteSize ≤ Disk.maxPathBytes) :
    (disk.readText (below.foldl Path.join directory)).toOption = content := by
  induction sub generalizing below place directory with
  | nil => contradiction
  | file name content rest ih =>
      rcases List.mem_cons.mp listed with here | listed
      · cases here
        exact Disk.readText_join leads wellFormed.1 short (there _ _ List.mem_cons_self)
      · exact ih wellFormed.2.2 leads
          (fun other entry member => there other entry (List.mem_cons_of_mem _ member)) listed short
  | directory name inside rest ihInside ihRest =>
      have isName := isName_of_mem_files wellFormed listed
      obtain ⟨named, -, wellFormedInside, wellFormedRest⟩ := wellFormed
      rcases List.mem_append.mp listed with within | listed
      · obtain ⟨⟨deeper, content⟩, member, same⟩ := List.mem_map.mp within
        cases same
        have shortInside : (Path.join directory name).utf8ByteSize ≤ Disk.maxPathBytes :=
          Nat.le_trans (Path.size_le_size_foldl_join
            (fun other below => isName other (List.mem_cons_of_mem name below)) _) short
        have leadsInside := Disk.placeOf?_join leads named shortInside
          (there _ _ (List.mem_append_left _ List.mem_cons_self))
        have thereInside : ∀ other entry, (other, entry) ∈ inside.entries →
            disk.entry? (place ++ [name] ++ other) = some entry := by
          intro other entry listed
          rw [List.append_assoc]
          exact there _ _ (List.mem_append_left _
            (List.mem_cons_of_mem _ (List.mem_map.mpr ⟨(other, entry), listed, rfl⟩)))
        have read := ihInside wellFormedInside leadsInside thereInside member short
        exact read
      · have thereRest : ∀ other entry, (other, entry) ∈ rest.entries →
            disk.entry? (place ++ other) = some entry := fun other entry member =>
          there other entry (List.mem_append_right _ member)
        exact ihRest wellFormedRest leads thereRest listed short

/-- One name leads from a directory to a directory. -/
theorem directoryAt?_follow {current start : Place} {name : String}
    (wellFormed : forest.WellFormed) (isDirectory : ∃ sub, forest.directoryAt? start = some sub)
    (followed : (forest.disk current).follow start name = .ok place) :
    ∃ sub, forest.directoryAt? place = some sub := by
  rw [Disk.follow] at followed
  split at followed
  · cases followed
    exact isDirectory
  · split at followed
    · cases followed
      exact directoryAt?_dropLast isDirectory.choose_spec
    · split at followed
      · contradiction
      · split at followed
        · next there =>
            cases followed
            exact (entry?_eq_directory_iff wellFormed current).mp there
        · contradiction
        · contradiction

/-- Paths that lead to a directory lead to one of the forest. -/
theorem directoryAt?_of_placeOf? {current : Place} (wellFormed : forest.WellFormed)
    (currentDirectory : ∃ sub, forest.directoryAt? current = some sub)
    (leads : (forest.disk current).placeOf? directory = some place) :
    ∃ sub, forest.directoryAt? place = some sub := by
  obtain ⟨target, resolved, leads⟩ := Disk.placeOf?_eq_some_iff.mp leads
  obtain ⟨noNul, nonempty, short⟩ := Disk.resolve_of_ok resolved
  rw [Disk.resolve_eq noNul nonempty short] at resolved
  have followed := Disk.foldlM_follow_of_walk resolved leads
  have startDirectory :
      ∃ sub, forest.directoryAt? ((forest.disk current).startOf directory) = some sub := by
    rw [Disk.startOf]
    split
    · exact ⟨forest, directoryAt?_nil forest⟩
    · exact currentDirectory
  generalize (forest.disk current).startOf directory = start at followed startDirectory
  generalize Path.pieces directory = names at followed
  induction names generalizing start with
  | nil =>
      cases followed
      exact startDirectory
  | cons name names ih =>
      rw [List.foldlM_cons] at followed
      cases step : (forest.disk current).follow start name with
      | error cause =>
          rw [step] at followed
          contradiction
      | ok between =>
          rw [step] at followed
          exact ih between (directoryAt?_follow wellFormed startDirectory step) followed

end Forest

end Imprint.Storage
