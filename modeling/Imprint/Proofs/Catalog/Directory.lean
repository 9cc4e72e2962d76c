import Imprint.Catalog.Directory
import Imprint.Proofs.Catalog.History
import Imprint.Proofs.Storage.Disk

/-!
# Catalogs with the templates of a directory

Manifests are loaded from a tree of directories and files.  A directory gives one template for
every manifest in it that can be read, depth-first and in the order of names, and each one is
loaded by itself.  The catalog is overlaid with them in this order, so that the last one with a
language id is found.
-/

namespace Imprint

open Storage (Disk Forest)

/-- A text that has more than one character behind the part before its first dot. -/
theorem Storage.Path.exists_eq_append_dot {text ending : List Char}
    (front : text.takeWhile (· != '.') = ending) (long : ending.length + 1 < text.length) :
    ∃ behind, behind ≠ [] ∧ text = ending ++ '.' :: behind := by
  have parts := @List.takeWhile_append_dropWhile _ (· != '.') text
  have stops := List.head?_dropWhile_not (· != '.') text
  rw [front] at parts
  rw [← parts, List.length_append] at long
  cases rest : text.dropWhile (· != '.') with
  | nil =>
      rw [rest, List.length_nil] at long
      omega
  | cons dot behind =>
      rw [rest] at parts stops long
      have isDot : dot = '.' := by simpa using stops
      refine ⟨behind, ?_, by rw [← isDot, parts]⟩
      rintro rfl
      rw [List.length_singleton] at long
      omega

/-- Whether a name is that of a manifest: it ends with the extension and has something before
it. -/
def IsManifestName (name : String) : Prop := ∃ stem, stem ≠ "" ∧ name = stem ++ ".toml"

theorem Storage.Path.extension?_eq_toml_iff {name : String} :
    extension? name = some "toml" ↔ IsManifestName name := by
  constructor
  · intro extension
    simp only [extension?] at extension
    split at extension
    · contradiction
    · next long =>
        have reversed := congrArg String.toList (Option.some.inj extension)
        rw [String.toList_ofList, List.reverse_eq_iff] at reversed
        rw [reversed, ← String.length_toList, ← List.length_reverse] at long
        obtain ⟨stem, present, parts⟩ := exists_eq_append_dot reversed (by omega)
        refine ⟨String.ofList stem.reverse, by simpa using present, ?_⟩
        rw [← String.toList_inj, String.toList_append, String.toList_ofList,
          List.reverse_eq_iff.mp parts, List.reverse_append, List.reverse_cons,
          List.reverse_reverse, List.append_assoc]
        rfl
  · rintro ⟨stem, nonempty, rfl⟩
    have written : (stem ++ ".toml").toList.reverse =
        'l' :: 'm' :: 'o' :: 't' :: '.' :: stem.toList.reverse := by
      rw [String.toList_append, List.reverse_append]
      rfl
    have ending : (stem ++ ".toml").toList.reverse.takeWhile (· != '.') = ['l', 'm', 'o', 't'] := by
      rw [written]
      rfl
    have length : (stem ++ ".toml").length = stem.length + 5 := by
      rw [String.length_append]
      rfl
    have present : stem.length ≠ 0 := by simpa using nonempty
    have long : ¬ stem.length + 5 ≤ ['l', 'm', 'o', 't'].length + 1 := by
      rw [show ['l', 'm', 'o', 't'].length = 4 from rfl]
      omega
    simp only [extension?, ending, length, if_neg long]
    rfl

instance (name : String) : Decidable (IsManifestName name) :=
  decidable_of_iff _ Storage.Path.extension?_eq_toml_iff

namespace Catalog

/-- A catalog that is overlaid finds the last of the templates with a language id, and what it
held before if there is none. -/
theorem lookup?_insertAll (catalog : Catalog) (templates : List Template) (language : String) :
    (catalog.insertAll templates).lookup? language =
      (current? templates language).or (catalog.lookup? language) := by
  induction templates using List.reverseRecOn with
  | nil => rfl
  | append_singleton templates template ih =>
      have inserted : catalog.insertAll (templates ++ [template]) =
          (catalog.insertAll templates).insert template := by
        rw [insertAll, List.foldl_append]
        rfl
      have looked : ((catalog.insertAll templates).insert template).lookup? language =
          if template.language = language then some template
          else (catalog.insertAll templates).lookup? language :=
        find?_insertSorted template _ language
      rw [inserted, looked, current?_append, ih]
      split <;> rfl

end Catalog

/-! ## Manifests of a directory -/

/-- The template of a file below a directory, if it is a manifest that can be read. -/
def manifestTemplate? (disk : Disk) (directory : String) (file : Storage.Place × Option String) :
    Option Template :=
  if file.1.getLast?.any fun name => IsManifestName name then
    file.2.bind fun text =>
      (Manifest.parse ((Storage.Path.parent? (file.1.foldl Storage.Path.join directory)).map
        (readBeside disk)) text).toOption
  else none

/-- The templates of the files below a directory, file by file. -/
def templatesIn (disk : Disk) (directory : String) (inside : Forest) : List Template :=
  inside.files.filterMap (manifestTemplate? disk directory)

/-- Whether the paths of all files in a directory are short enough to be read. -/
def Reachable (directory : String) (inside : Forest) : Prop :=
  ∀ file ∈ inside.files,
    (file.1.foldl Storage.Path.join directory).utf8ByteSize ≤ Disk.maxPathBytes

variable {forest inside : Forest} {place current : Storage.Place} {directory : String}

/-- A directory gives one template for every manifest in it that can be read. -/
theorem loadTemplates_eq (wellFormed : forest.WellFormed)
    (leads : (forest.disk current).placeOf? directory = some place)
    (found : forest.directoryAt? place = some inside) (reachable : Reachable directory inside) :
    loadTemplates (forest.disk current) directory =
      templatesIn (forest.disk current) directory inside := by
  have there : ∀ other entry, (other, entry) ∈ inside.entries →
      Disk.entry? (forest.disk current) (place ++ other) = some entry :=
    fun other entry listed =>
      Forest.entry?_of_mem wellFormed current (Forest.append_mem_entries found listed)
  have wellFormedInside := Forest.wellFormed_directoryAt? wellFormed found
  have manifests (name : String) : (Storage.Path.extension? name == some "toml") =
      decide (IsManifestName name) := by
    rw [Bool.eq_iff_iff, beq_iff_eq, decide_eq_true_iff, Storage.Path.extension?_eq_toml_iff]
  rw [loadTemplates, manifestPaths, leads]
  simp only [Forest.filesBelow_eq wellFormed current found, manifests]
  rw [templatesIn, List.filterMap_map, List.filterMap_filterMap]
  refine List.filterMap_congr fun file listed => ?_
  obtain ⟨names, content⟩ := file
  have text := Forest.readText_foldl_join wellFormedInside leads there listed
    (reachable _ listed)
  rw [manifestTemplate?, Function.comp]
  split
  · next isManifest =>
      rw [Option.bind_some, loadManifest?, text]
      rfl
  · rfl

namespace Catalog

variable {disk : Disk}

/-- Loading fails for paths that lead to no directory, and for no others. -/
theorem loadDirectory_eq_error_iff {catalog : Catalog} {cause : Error} :
    catalog.loadDirectory disk directory = .error cause ↔
      disk.isDirectory directory = false ∧
        cause = .invalidTemplate (.directoryMissing directory) := by
  rw [loadDirectory]
  split
  · next there => simp [there]
  · next missing =>
      rw [Bool.not_eq_true] at missing
      simp [missing, eq_comm]

/-- The catalog is overlaid with the templates of the directory. -/
theorem loadDirectory_eq_ok (wellFormed : forest.WellFormed)
    (leads : (forest.disk current).placeOf? directory = some place)
    (found : forest.directoryAt? place = some inside) (reachable : Reachable directory inside)
    (catalog : Catalog) :
    catalog.loadDirectory (forest.disk current) directory =
      .ok (inside.files.countP fun file =>
          (manifestTemplate? (forest.disk current) directory file).isSome,
        catalog.insertAll (templatesIn (forest.disk current) directory inside)) := by
  have there := Disk.isDirectory_iff.mpr ⟨place, leads⟩
  rw [loadDirectory, if_pos there, loadTemplates_eq wellFormed leads found reachable]
  simp only [templatesIn, List.length_filterMap_eq_countP]

/-- A manifest that cannot be read is passed over. -/
theorem templatesIn_of_invalid {before after : List (Storage.Place × Option String)}
    {bad : Storage.Place × Option String} (parts : inside.files = before ++ bad :: after)
    (invalid : manifestTemplate? disk directory bad = none) :
    templatesIn disk directory inside =
      (before ++ after).filterMap (manifestTemplate? disk directory) := by
  rw [templatesIn, parts, List.filterMap_append, List.filterMap_cons_none invalid,
    List.filterMap_append]

variable {explicit environment : Option String}

/-- Only a directory that is asked for must be there. -/
theorem discover_eq_error_iff {cause : Error} :
    discover disk explicit environment = .error cause ↔
      ∃ missing, explicit = some missing ∧ disk.isDirectory missing = false ∧
        cause = .templatesMissing missing := by
  have overlay : ∀ directory, disk.isDirectory directory = true →
      ∃ catalog, (builtin.loadDirectory disk directory).map Prod.snd = .ok catalog := by
    intro directory there
    rw [loadDirectory, if_pos there]
    exact ⟨_, rfl⟩
  rw [discover]
  split
  · next missing unmet =>
      obtain ⟨asked, absent⟩ := Option.filter_eq_some_iff.mp unmet
      rw [Bool.not_eq_true'] at absent
      constructor
      · rintro ⟨⟩
        exact ⟨missing, asked, absent, rfl⟩
      · rintro ⟨other, same, -, rfl⟩
        cases asked.symm.trans same
        rfl
  · next met =>
      have allThere : ∀ missing, explicit = some missing → disk.isDirectory missing = true := by
        rintro missing rfl
        simpa using met
      constructor
      · intro failed
        split at failed
        · next directory found =>
            obtain ⟨catalog, loaded⟩ := overlay directory (List.find?_some found)
            rw [loaded] at failed
            contradiction
        · contradiction
      · rintro ⟨missing, asked, absent, -⟩
        rw [allThere missing asked] at absent
        contradiction

/-- The first directory that is there is overlaid, and no other one. -/
theorem discover_eq_of_first {before after : List String}
    (asked : ∀ directory, explicit = some directory → disk.isDirectory directory = true)
    (candidates : directories explicit environment = before ++ directory :: after)
    (absent : ∀ other ∈ before, disk.isDirectory other = false)
    (there : disk.isDirectory directory = true) :
    discover disk explicit environment =
      (builtin.loadDirectory disk directory).map Prod.snd := by
  have met : (explicit.filter fun directory => !disk.isDirectory directory) = none := by
    cases explicit with
    | none => rfl
    | some directory => simp [asked directory rfl]
  have first : (directories explicit environment).find? disk.isDirectory = some directory := by
    rw [candidates, List.find?_append, List.find?_eq_none.mpr (by simpa using absent)]
    exact List.find?_cons_of_pos there
  rw [discover, met]
  simp only [first]

/-- Without any of the directories the catalog is the built-in one. -/
theorem discover_eq_builtin (asked : explicit = none)
    (absent : ∀ directory ∈ directories explicit environment,
      disk.isDirectory directory = false) :
    discover disk explicit environment = .ok builtin := by
  have none : (directories explicit environment).find? disk.isDirectory = none :=
    List.find?_eq_none.mpr (by simpa using absent)
  rw [asked] at none ⊢
  rw [discover, Option.filter_none]
  simp only [none]

/-- What the manifests on a disk make of a catalog.  A directory is overlaid file by file: every
manifest in it that can be read replaces what the catalog held under its language id, the last one
counts, and one that cannot be read changes nothing for the others.  The built-in catalog is
overlaid with the first directory that is there, and fails for want of a directory only if it is
asked for. -/
theorem overlay_forest (wellFormed : forest.WellFormed)
    (currentDirectory : ∃ inside, forest.directoryAt? current = some inside) :
    let disk := forest.disk current
    (∀ directory, disk.isDirectory directory = true ↔
      ∃ place inside, disk.placeOf? directory = some place ∧
        forest.directoryAt? place = some inside) ∧
    (∀ (catalog : Catalog) (directory : String),
      (∀ cause, catalog.loadDirectory disk directory = .error cause ↔
        disk.isDirectory directory = false ∧
          cause = .invalidTemplate (.directoryMissing directory)) ∧
      ∀ place inside, disk.placeOf? directory = some place →
        forest.directoryAt? place = some inside → Reachable directory inside →
          catalog.loadDirectory disk directory =
            .ok (inside.files.countP fun file => (manifestTemplate? disk directory file).isSome,
              catalog.insertAll (templatesIn disk directory inside)) ∧
          (∀ language,
            (catalog.insertAll (templatesIn disk directory inside)).lookup? language =
              (current? (templatesIn disk directory inside) language).or
                (catalog.lookup? language)) ∧
          ∀ before bad after, inside.files = before ++ bad :: after →
            manifestTemplate? disk directory bad = none →
              templatesIn disk directory inside =
                (before ++ after).filterMap (manifestTemplate? disk directory)) ∧
    ∀ explicit environment : Option String,
      let candidates := explicit.toList ++
        (environment.filter fun path => !Text.isBlankText path).toList ++ [projectTemplates]
      (∀ cause, discover disk explicit environment = .error cause ↔
        ∃ missing, explicit = some missing ∧ disk.isDirectory missing = false ∧
          cause = .templatesMissing missing) ∧
      (explicit = none → (∀ directory ∈ candidates, disk.isDirectory directory = false) →
        discover disk explicit environment = .ok builtin) ∧
      ((∀ directory, explicit = some directory → disk.isDirectory directory = true) →
        ∀ before directory after place inside, candidates = before ++ directory :: after →
          (∀ other ∈ before, disk.isDirectory other = false) →
          disk.placeOf? directory = some place → forest.directoryAt? place = some inside →
          Reachable directory inside →
            discover disk explicit environment =
              .ok (builtin.insertAll (templatesIn disk directory inside))) := by
  refine ⟨fun directory => ⟨?_, ?_⟩, fun catalog directory => ⟨fun cause => ?_, ?_⟩,
    fun explicit environment => ⟨fun cause => ?_, ?_, ?_⟩⟩
  · intro there
    obtain ⟨place, leads⟩ := Disk.isDirectory_iff.mp there
    obtain ⟨inside, found⟩ := Forest.directoryAt?_of_placeOf? wellFormed currentDirectory leads
    exact ⟨place, inside, leads, found⟩
  · rintro ⟨place, inside, leads, -⟩
    exact Disk.isDirectory_iff.mpr ⟨place, leads⟩
  · exact loadDirectory_eq_error_iff
  · intro place inside leads found reachable
    exact ⟨loadDirectory_eq_ok wellFormed leads found reachable catalog,
      lookup?_insertAll catalog _, fun before bad after => templatesIn_of_invalid⟩
  · exact discover_eq_error_iff
  · exact discover_eq_builtin
  · intro asked before directory after place inside candidates absent leads found reachable
    rw [discover_eq_of_first asked candidates absent (Disk.isDirectory_iff.mpr ⟨place, leads⟩),
      loadDirectory_eq_ok wellFormed leads found reachable]
    rfl

/-- A directory that holds a broken manifest and, further down, one that can be read. -/
def brokenThenZig : Forest :=
  .file "broken.toml" (some "[template")
    (.directory "zig"
      (.file "slots"
        (some ("\x7b\x7bVersion\x7d\x7d\x7b\x7bCommitHash\x7d\x7d\x7b\x7bCommitDate\x7d\x7d" ++
          "\x7b\x7bCommitDescriptor\x7d\x7d\x7b\x7bBuildDate\x7d\x7d"))
        (.file "zig.toml"
          (some ("[template]\nlanguage='zig'\nconvention='snake'\nescape='c'\n" ++
            "[files]\ndeclaration='a.zig'\ndefinition='b.zig'\n" ++
            "[declaration]\nfile='slots'\n[definition]\nfile='slots'"))
          .nil))
      .nil)

/-- The manifest that can be read is loaded, and the broken one is not in its way. -/
theorem overlay_forest_brokenThenZig :
    ∃ catalog,
      builtin.loadDirectory ((Forest.directory "mine" brokenThenZig .nil).disk []) "mine" =
          .ok (1, catalog) ∧
        discover ((Forest.directory "mine" brokenThenZig .nil).disk []) (some "mine") none =
          .ok catalog ∧
        discover ((Forest.directory "mine" brokenThenZig .nil).disk []) (some "yours") none =
          .error (.templatesMissing "yours") := by
  have wellFormed : (Forest.directory "mine" brokenThenZig .nil).WellFormed := by decide +kernel
  have reachable : Reachable "mine" brokenThenZig := by
    show ∀ file ∈ brokenThenZig.files, _
    decide +kernel
  have one : brokenThenZig.files.countP (fun file => (manifestTemplate?
      ((Forest.directory "mine" brokenThenZig .nil).disk []) "mine" file).isSome) = 1 := by
    decide +kernel
  have leads : ((Forest.directory "mine" brokenThenZig .nil).disk []).placeOf? "mine" =
      some ["mine"] := by decide +kernel
  have found : (Forest.directory "mine" brokenThenZig .nil).directoryAt? ["mine"] =
      some brokenThenZig := rfl
  obtain ⟨isDirectory, load, find⟩ := overlay_forest wellFormed ⟨_, Forest.directoryAt?_nil _⟩
  have loaded := ((load builtin "mine").2 _ _ leads found reachable).1
  have there := (isDirectory "mine").mpr ⟨_, _, leads, found⟩
  rw [one] at loaded
  refine ⟨_, loaded, ?_, ?_⟩
  · refine (find (some "mine") none).2.2 ?_ [] "mine" [projectTemplates] _ _ rfl ?_ leads found
      reachable
    · rintro _ ⟨⟩
      exact there
    · simp
  · exact ((find (some "yours") none).1 _).mpr ⟨"yours", rfl, by decide +kernel, rfl⟩

end Catalog

end Imprint
