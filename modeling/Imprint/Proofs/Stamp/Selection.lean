import Imprint.Proofs.Catalog.Selection
import Imprint.Proofs.Stamp.Batch
import Imprint.Proofs.Storage.Order
import Imprint.Proofs.Storage.Parent

/-!
# Stamping a selection of built-in templates

The files of the built-in templates lie side by side in every directory.  So their pairs do not get
in each other's way, and a batch of them leaves the same storage behind in whatever order it is
written.  The set of languages decides what is written, not the list that names them.
-/

namespace Imprint.Stamp

open Storage

/-! ## Pairs side by side -/

/-- Pairs whose files are entries of whatever directory they are put into, none of them in the
place of another. -/
structure SideBySide (pairs : List Pair) : Prop where
  nodup : pairs.Nodup
  entry : ∀ pair ∈ pairs, ∀ directory half, Path.components (pair.target directory half) =
    Path.components directory ++ [.name (pair.files.get half)]
  apart : ∀ first ∈ pairs, ∀ second ∈ pairs, ∀ half other,
    first.files.get half = second.files.get other → first = second ∧ half = other

/-- Storage once both halves of a pair have been written. -/
def stamped (directory : String) (memory : Memory) (pair : Pair) : Memory :=
  ((memory.createDirectories directory).put (pair.target directory .declaration)
    pair.declaration).put (pair.target directory .definition) pair.definition

variable {directory : String} {memory : Memory} {pair : Pair} {pairs : List Pair}

namespace SideBySide

theorem tail {first : Pair} (side : SideBySide (first :: pairs)) : SideBySide pairs where
  nodup := (List.nodup_cons.mp side.nodup).2
  entry other listed := side.entry other (List.mem_cons_of_mem _ listed)
  apart one oneListed two twoListed :=
    side.apart one (List.mem_cons_of_mem _ oneListed) two (List.mem_cons_of_mem _ twoListed)

/-- Different halves are at different places. -/
theorem target_ne {first second : Pair} {half other : Half} (side : SideBySide pairs)
    (firstListed : first ∈ pairs) (secondListed : second ∈ pairs)
    (different : ¬ (first = second ∧ half = other)) :
    Path.components (first.target directory half) ≠
      Path.components (second.target directory other) := by
  rw [side.entry first firstListed, side.entry second secondListed]
  intro same
  have name := List.append_cancel_left same
  simp only [List.cons.injEq, Component.name.injEq, and_true] at name
  exact different (side.apart first firstListed second secondListed half other name)

end SideBySide

/-! ## One pair -/

theorem content?_stamped (directory : String) (memory : Memory) (pair : Pair)
    (key : List Component) :
    (stamped directory memory pair).content? key =
      if Path.components (pair.target directory .definition) = key then some pair.definition
      else if Path.components (pair.target directory .declaration) = key then
        some pair.declaration
      else memory.content? key := by
  rw [stamped, Memory.content?_put, Memory.content?_put, Memory.content?_createDirectories]

/-- A pair takes its own places and creates the directory, nothing else. -/
theorem occupied_stamped (directory : String) (memory : Memory) (pair : Pair)
    (key : List Component) :
    (stamped directory memory pair).occupied key = true ↔
      (∃ half, Path.components (pair.target directory half) = key) ∨
        memory.occupied key = true ∨ key ∈ Path.prefixesOf (Path.components directory) := by
  rw [stamped, Memory.occupied_put, Memory.occupied_put, Memory.occupied_createDirectories,
    ← or_assoc]
  apply or_congr_left
  constructor
  · rintro (definition | declaration)
    · exact ⟨.definition, definition⟩
    · exact ⟨.declaration, declaration⟩
  · rintro ⟨half, there⟩
    cases half with
    | declaration => exact .inr there
    | definition => exact .inl there

/-- Whether a path may be written: nothing is there, or overwriting is forced. -/
def Open (force : Bool) (memory : Memory) (path : String) : Prop :=
  force = true ∨ memory.holds path = false

theorem taken?_eq_none_iff {force : Bool} {paths : List String} :
    taken? ⟨force, false⟩ paths memory = none ↔ ∀ path ∈ paths, Open force memory path := by
  cases force with
  | true => simp [taken?, Open]
  | false => simp [taken?, Open]

/-- Once the directory is there, an entry of it can be written. -/
theorem writable_entry {path : String} {name : Component} (unfailing : memory.failing = [])
    (entry : Path.components path = Path.components directory ++ [name]) :
    (memory.createDirectories directory).Writable path := by
  constructor
  · have same : (memory.createDirectories directory).failing = memory.failing := rfl
    rw [same, unfailing]
    rfl
  · exact Memory.hasParent_createDirectories entry

/-- A pair whose places are open is written. -/
theorem writePair_eq_stamped {force : Bool} (unfailing : memory.failing = [])
    (entry : ∀ half, ∃ name, Path.components (pair.target directory half) =
      Path.components directory ++ [name])
    (vacant : ∀ half, Open force memory (pair.target directory half)) :
    ∃ written, (writePair pair directory ⟨force, false⟩ : Task Memory WrittenPair) memory =
      (.ok written, stamped directory memory pair) := by
  have free : taken? ⟨force, false⟩
      [pair.target directory .declaration, pair.target directory .definition] memory = none := by
    rw [taken?_eq_none_iff]
    intro path listed
    simp only [List.mem_cons, List.not_mem_nil, or_false] at listed
    rcases listed with rfl | rfl
    · exact vacant .declaration
    · exact vacant .definition
  have writable (half : Half) :
      (memory.createDirectories directory).Writable (pair.target directory half) := by
    rcases entry half with ⟨name, there⟩
    exact writable_entry unfailing there
  rcases run : (writePair pair directory ⟨force, false⟩ : Task Memory WrittenPair) memory
    with ⟨result, after⟩
  have outcome := writePair_outcome pair directory ⟨force, false⟩ memory
  rw [run] at outcome
  cases outcome with
  | refused taken =>
      rw [free] at taken
      contradiction
  | dry _ dryRun => contradiction
  | declarationFailed _ _ unwritable => exact absurd (writable .declaration) unwritable
  | undone _ _ _ unwritable => exact absurd (writable .definition) unwritable
  | left _ _ _ unwritable => exact absurd (writable .definition) unwritable
  | written => exact ⟨_, rfl⟩

/-! ## All pairs -/

/-- What is open stays so while other pairs are written. -/
theorem open_stamped {force : Bool} {first other : Pair} {half : Half} (side : SideBySide pairs)
    (firstListed : first ∈ pairs) (otherListed : other ∈ pairs) (different : first ≠ other)
    (vacant : Open force memory (other.target directory half)) :
    Open force (stamped directory memory first) (other.target directory half) := by
  refine vacant.imp_right fun free => ?_
  rw [← Bool.not_eq_true, Memory.holds_eq_occupied, occupied_stamped]
  rintro (⟨written, here⟩ | before | created)
  · exact side.target_ne firstListed otherListed (fun both => different both.1) here
  · rw [Memory.holds_eq_occupied, before] at free
    contradiction
  · rw [side.entry other otherListed] at created
    exact Path.append_singleton_not_mem_prefixesOf _ _ created

/-- Pairs side by side are all written, one after the other. -/
theorem runSteps_eq_foldl {force : Bool} (side : SideBySide pairs) (unfailing : memory.failing = [])
    (vacant : ∀ pair ∈ pairs, ∀ half, Open force memory (pair.target directory half)) :
    ∃ written, runSteps (pairs.map fun pair =>
        Written.pair <$> (writePair pair directory ⟨force, false⟩ : Task Memory WrittenPair))
      memory = (⟨written, none⟩, pairs.foldl (stamped directory) memory) := by
  -- The places of the pairs that are still to be written stay open from step to step.
  induction pairs generalizing memory with
  | nil => exact ⟨[], rfl⟩
  | cons first rest ih =>
      have entry (half : Half) := side.entry first List.mem_cons_self directory half
      rcases writePair_eq_stamped unfailing (fun half => ⟨_, entry half⟩)
        (vacant first List.mem_cons_self) with ⟨written, done⟩
      have step : (Written.pair <$>
          (writePair first directory ⟨force, false⟩ : Task Memory WrittenPair)) memory =
            (.ok (.pair written), stamped directory memory first) := by
        rw [Task.map_apply, done]
        rfl
      have vacantAfter : ∀ pair ∈ rest, ∀ half,
          Open force (stamped directory memory first) (pair.target directory half) := by
        intro pair listed half
        have different : first ≠ pair := by
          rintro rfl
          exact (List.nodup_cons.mp side.nodup).1 listed
        have vacantBefore := vacant pair (List.mem_cons_of_mem _ listed) half
        exact open_stamped side List.mem_cons_self (List.mem_cons_of_mem _ listed) different
          vacantBefore
      have unfailingAfter : (stamped directory memory first).failing = [] := unfailing
      rcases ih side.tail unfailingAfter vacantAfter with ⟨others, finished⟩
      refine ⟨.pair written :: others, ?_⟩
      rw [List.map_cons, runSteps_ok step, finished]
      rfl

/-- Two pairs side by side can be written in either order. -/
theorem stamped_comm {first second : Pair} (side : SideBySide pairs) (firstListed : first ∈ pairs)
    (secondListed : second ∈ pairs) (memory : Memory) :
    stamped directory (stamped directory memory first) second =
      stamped directory (stamped directory memory second) first := by
  by_cases same : first = second
  · rw [same]
  · have apart (half other : Half) : Path.components (first.target directory half) ≠
        Path.components (second.target directory other) :=
      side.target_ne firstListed secondListed fun both => same both.1
    simp only [stamped, Memory.createDirectories_put, Memory.createDirectories_idem]
    rw [Memory.put_comm _ (apart .definition .declaration),
      Memory.put_comm _ (apart .declaration .declaration),
      Memory.put_comm _ (apart .definition .definition),
      Memory.put_comm _ (apart .declaration .definition)]

/-- Pairs side by side can be written in any order. -/
theorem foldl_stamped_perm {others : List Pair} (side : SideBySide pairs)
    (shuffled : pairs.Perm others) (memory : Memory) :
    pairs.foldl (stamped directory) memory = others.foldl (stamped directory) memory := by
  apply shuffled.foldl_eq'
  intro first firstListed second secondListed memory
  exact stamped_comm side firstListed secondListed memory

/-- Both halves of every pair are there in the end. -/
theorem read?_foldl_stamped (side : SideBySide pairs) (listed : pair ∈ pairs) (half : Half)
    (memory : Memory) :
    (pairs.foldl (stamped directory) memory).read? (pair.target directory half) =
      some (pair.text half) := by
  -- The pair may as well be the last one that is written.
  have last : pairs.Perm (pairs.erase pair ++ [pair]) :=
    (List.perm_cons_erase listed).trans (List.perm_append_singleton pair _).symm
  rw [foldl_stamped_perm side last, List.foldl_append, Memory.read?, List.foldl_cons,
    List.foldl_nil, content?_stamped]
  cases half with
  | definition => rw [if_pos rfl, Pair.text]
  | declaration =>
      have apart : Path.components (pair.target directory .definition) ≠
          Path.components (pair.target directory .declaration) :=
        side.target_ne listed listed fun both => absurd both.2 (by decide)
      rw [if_neg apart, if_pos rfl, Pair.text]

/-- All other files are as before. -/
theorem read?_foldl_stamped_of_ne {path : String}
    (elsewhere : ∀ pair ∈ pairs, ∀ half,
      Path.components path ≠ Path.components (pair.target directory half)) (memory : Memory) :
    (pairs.foldl (stamped directory) memory).read? path = memory.read? path := by
  induction pairs generalizing memory with
  | nil => rfl
  | cons first rest ih =>
      have here (half : Half) := (elsewhere first List.mem_cons_self half).symm
      rw [List.foldl_cons, ih fun pair listed => elsewhere pair (List.mem_cons_of_mem _ listed),
        Memory.read?, content?_stamped, if_neg (here .definition), if_neg (here .declaration),
        Memory.read?]

/-! ## Batches of pairs -/

/-- Whether a file of the pairs is in the way. -/
def Blocked (force : Bool) (memory : Memory) (directory : String) (pairs : List Pair) : Prop :=
  ∃ pair ∈ pairs, ∃ half, ¬ Open force memory (pair.target directory half)

theorem forall_open_targets_iff {force : Bool} :
    (∀ path ∈ (⟨pairs, directory, []⟩ : Batch).targets, Open force memory path) ↔
      ¬ Blocked force memory directory pairs := by
  rw [Batch.targets_eq, List.map_nil, List.append_nil]
  simp only [List.mem_flatMap, List.mem_cons, List.not_mem_nil, or_false, Blocked, not_exists,
    not_and, not_not]
  constructor
  · intro vacant pair listed half
    cases half with
    | declaration => exact vacant _ ⟨pair, listed, .inl rfl⟩
    | definition => exact vacant _ ⟨pair, listed, .inr rfl⟩
  · rintro vacant path ⟨pair, listed, rfl | rfl⟩
    · exact vacant pair listed .declaration
    · exact vacant pair listed .definition

/-- Pairs of which a file is in the way are refused, and storage stays as it is. -/
theorem run_of_blocked {force : Bool} (blocked : Blocked force memory directory pairs) :
    ∃ result, result.Refused ∧
      (⟨pairs, directory, []⟩ : Batch).run ⟨force, false⟩ memory = (result, memory) := by
  cases taken : taken? ⟨force, false⟩ (⟨pairs, directory, []⟩ : Batch).targets memory with
  | some path => exact ⟨_, ⟨path, rfl⟩, Batch.run_of_taken taken⟩
  | none =>
      rw [taken?_eq_none_iff, forall_open_targets_iff] at taken
      contradiction

/-- Pairs side by side of which no file is in the way are written. -/
theorem run_of_not_blocked {force : Bool} (side : SideBySide pairs)
    (unfailing : memory.failing = []) (vacant : ¬ Blocked force memory directory pairs) :
    ∃ result, result.error = none ∧
      (⟨pairs, directory, []⟩ : Batch).run ⟨force, false⟩ memory =
        (result, pairs.foldl (stamped directory) memory) := by
  have free := taken?_eq_none_iff.mpr (forall_open_targets_iff.mpr vacant)
  have each : ∀ pair ∈ pairs, ∀ half, Open force memory (pair.target directory half) := by
    intro pair listed half
    by_contra blocked
    exact vacant ⟨pair, listed, half, blocked⟩
  rcases runSteps_eq_foldl side unfailing each with ⟨written, done⟩
  refine ⟨⟨written, none⟩, rfl, ?_⟩
  rw [Batch.run_of_free free, Batch.steps, List.map_nil, List.append_nil]
  exact done

/-! ## Selections -/

open Builtin (Names Selects standardPair exists_renderAll)

/-- The file names of built-in templates are entries of whatever directory they are put into. -/
theorem components_join_files {template : Template} (listed : template ∈ Builtin.all)
    (directory : String) (half : Half) :
    Path.components (Path.join directory (template.files.get half)) =
      Path.components directory ++ [.name (template.files.get half)] := by
  have plain : ∀ template ∈ Builtin.all,
      Path.isAbsolute (template.files.get half) = false ∧
      Path.components (template.files.get half) = [.name (template.files.get half)] ∧
      Path.bodyComponents (Path.splitSlash (template.files.get half).toList) =
        [.name (template.files.get half)] := by
    cases half <;> decide +kernel
  rcases plain template listed with ⟨relative, alone, within⟩
  rw [Path.components_join, Path.inside, relative, Bool.false_or]
  by_cases here : directory.isEmpty = true
  · rw [if_pos here, alone, String.isEmpty_iff.mp here]
    rfl
  · rw [if_neg here, within]

/-- No two halves of built-in templates share a file name. -/
theorem eq_of_shared_file {first second : Template} {half other : Half}
    (firstListed : first ∈ Builtin.all) (secondListed : second ∈ Builtin.all)
    (same : first.files.get half = second.files.get other) : first = second ∧ half = other := by
  have distinct : ∀ first ∈ Builtin.all, ∀ second ∈ Builtin.all,
      first.files.get half = second.files.get other →
        first.language = second.language ∧ half = other := by
    cases half <;> cases other <;> decide +kernel
  rcases distinct first firstListed second secondListed same with ⟨sameLanguage, sameHalf⟩
  exact ⟨Builtin.eq_of_shared_language firstListed secondListed sameLanguage, sameHalf⟩

/-- The pairs of built-in templates lie side by side. -/
theorem sideBySide_of_rendered {descriptor : DescriptorName} {record : Record}
    {selectors : List String} (nodup : pairs.Nodup)
    (rendered : ∀ pair, pair ∈ pairs ↔
      ∃ template, Selects selectors template ∧ standardPair descriptor record template = pair) :
    SideBySide pairs where
  nodup := nodup
  entry pair listed directory half := by
    rcases (rendered pair).mp listed with ⟨template, ⟨-, -, builtin, -⟩, rfl⟩
    exact components_join_files builtin directory half
  apart first firstListed second secondListed half other same := by
    rcases (rendered first).mp firstListed with ⟨one, ⟨-, -, oneBuiltin, -⟩, rfl⟩
    rcases (rendered second).mp secondListed with ⟨two, ⟨-, -, twoBuiltin, -⟩, rfl⟩
    rcases eq_of_shared_file oneBuiltin twoBuiltin same with ⟨rfl, sameHalf⟩
    exact ⟨rfl, sameHalf⟩

/-- Two runs agree on a selection: both are refused for the sake of a file of a selected template
and have left storage as it was, or no such file was in the way, both have written the texts of the
selected templates, and nothing else, and have left the same storage. -/
inductive Agree (selectors : List String) (descriptor : DescriptorName) (record : Record)
    (directory : String) (force : Bool) (memory : Memory) :
    BatchResult × Memory → BatchResult × Memory → Prop
  | refused {one two : BatchResult} {template : Template} {half : Half}
      (selected : Selects selectors template)
      (taken : ¬ Open force memory (Path.join directory (template.files.get half)))
      (oneRefused : one.Refused) (twoRefused : two.Refused) :
      Agree selectors descriptor record directory force memory (one, memory) (two, memory)
  | written {one two : BatchResult} {after : Memory}
      (vacant : ∀ template, Selects selectors template → ∀ half,
        Open force memory (Path.join directory (template.files.get half)))
      (oneDone : one.error = none) (twoDone : two.error = none)
      (stores : ∀ template, Selects selectors template → ∃ pair,
        Catalog.builtin.render (.standard descriptor) record template.language = .ok pair ∧
        ∀ half, after.read? (Path.join directory (template.files.get half)) =
          some (pair.text half))
      (keeps : ∀ path, (∀ template, Selects selectors template → ∀ half,
          Path.components path ≠
            Path.components (Path.join directory (template.files.get half))) →
        after.read? path = memory.read? path) :
      Agree selectors descriptor record directory force memory (one, after) (two, after)

/-- Lists of selectors that select the same built-in templates come to the same: whatever the
record, the directory and storage are, both batches are refused and change nothing, or both are
written and leave the same storage. -/
theorem agree_of_same_selection {first second : List String}
    (firstKnown : ∀ selector ∈ first, ∃ template, Names selector template)
    (secondKnown : ∀ selector ∈ second, ∃ template, Names selector template)
    (same : ∀ template, Selects first template ↔ Selects second template)
    (descriptor : DescriptorName) (checked : Bool) (record : Record) (directory : String)
    (force : Bool) {memory : Memory} (unfailing : memory.failing = []) :
    ∃ firstPairs secondPairs,
      Catalog.builtin.renderAll (.standard descriptor) checked record first = .ok firstPairs ∧
      Catalog.builtin.renderAll (.standard descriptor) checked record second = .ok secondPairs ∧
      Agree first descriptor record directory force memory
        ((⟨firstPairs, directory, []⟩ : Batch).run ⟨force, false⟩ memory)
        ((⟨secondPairs, directory, []⟩ : Batch).run ⟨force, false⟩ memory) := by
  rcases exists_renderAll firstKnown descriptor checked record with
    ⟨firstPairs, firstRendered, firstNodup, firstListed⟩
  rcases exists_renderAll secondKnown descriptor checked record with
    ⟨secondPairs, secondRendered, secondNodup, secondListed⟩
  have members : ∀ pair, pair ∈ firstPairs ↔ pair ∈ secondPairs := by
    intro pair
    rw [firstListed, secondListed]
    simp only [same]
  have shuffled : firstPairs.Perm secondPairs :=
    (List.perm_ext_iff_of_nodup firstNodup secondNodup).mpr members
  have firstSide := sideBySide_of_rendered firstNodup firstListed
  have secondSide := sideBySide_of_rendered secondNodup secondListed
  refine ⟨firstPairs, secondPairs, firstRendered, secondRendered, ?_⟩
  by_cases blocked : Blocked force memory directory firstPairs
  · rcases run_of_blocked blocked with ⟨one, oneRefused, firstRun⟩
    rcases blocked with ⟨pair, listed, half, taken⟩
    have secondBlocked : Blocked force memory directory secondPairs :=
      ⟨pair, (members pair).mp listed, half, taken⟩
    rcases run_of_blocked secondBlocked with ⟨two, twoRefused, secondRun⟩
    rcases (firstListed pair).mp listed with ⟨template, selected, rfl⟩
    rw [firstRun, secondRun]
    exact .refused selected taken oneRefused twoRefused
  · have secondVacant : ¬ Blocked force memory directory secondPairs := by
      rintro ⟨pair, listed, taken⟩
      exact blocked ⟨pair, (members pair).mpr listed, taken⟩
    rcases run_of_not_blocked firstSide unfailing blocked with ⟨one, oneDone, firstRun⟩
    rcases run_of_not_blocked secondSide unfailing secondVacant with ⟨two, twoDone, secondRun⟩
    rw [firstRun, secondRun, ← foldl_stamped_perm firstSide shuffled]
    refine .written ?_ oneDone twoDone ?_ ?_
    · intro template selected half
      by_contra taken
      exact blocked ⟨_, (firstListed _).mpr ⟨template, selected, rfl⟩, half, taken⟩
    · intro template selected
      have rendered := (firstListed _).mpr ⟨template, selected, rfl⟩
      rcases selected with ⟨-, -, builtin, -⟩
      refine ⟨_, Builtin.render_language builtin descriptor record, fun half => ?_⟩
      exact read?_foldl_stamped firstSide rendered half memory
    · intro path elsewhere
      apply read?_foldl_stamped_of_ne
      intro pair listed half
      rcases (firstListed pair).mp listed with ⟨template, selected, rfl⟩
      exact elsewhere template selected half

/-- C# and Go, once each. -/
def tersely : List String := [" C# ", "Go"]

/-- The same two by other names, in another order and with a repetition. -/
def verbosely : List String := ["golang", "CSHARP", "cs\t"]

theorem languageId_tersely : tersely.map Draft.languageId = ["c#", "go"] := by
  decide +kernel

theorem languageId_verbosely : verbosely.map Draft.languageId = ["golang", "csharp", "cs"] := by
  decide +kernel

theorem selects_tersely_iff (template : Template) :
    Selects tersely template ↔ Selects verbosely template := by
  rw [Builtin.selects_iff, Builtin.selects_iff, languageId_tersely, languageId_verbosely]
  apply and_congr_right
  revert template
  decide +kernel

/-- Both select the same, and both runs agree, beside a file that is there. -/
theorem agree_of_same_selection_tersely :
    (∀ selector ∈ tersely, ∃ template, Names selector template) ∧
      (∀ selector ∈ verbosely, ∃ template, Names selector template) ∧
      (∀ template, Selects tersely template ↔ Selects verbosely template) ∧
      (Memory.empty.put "out/notes.txt" "kept").failing = [] ∧
      ∃ firstPairs secondPairs,
        Catalog.builtin.renderAll (.standard .smart) true Record.empty tersely = .ok firstPairs ∧
        Catalog.builtin.renderAll (.standard .smart) true Record.empty verbosely =
          .ok secondPairs ∧
        Agree tersely .smart Record.empty "out" false (Memory.empty.put "out/notes.txt" "kept")
          ((⟨firstPairs, "out", []⟩ : Batch).run ⟨false, false⟩
            (Memory.empty.put "out/notes.txt" "kept"))
          ((⟨secondPairs, "out", []⟩ : Batch).run ⟨false, false⟩
            (Memory.empty.put "out/notes.txt" "kept")) := by
  have knownOf : ∀ name ∈ tersely.map Draft.languageId ++ verbosely.map Draft.languageId,
      ∃ template ∈ Builtin.all, name ∈ template.language :: template.aliases := by
    rw [languageId_tersely, languageId_verbosely]
    decide +kernel
  have firstKnown : ∀ selector ∈ tersely, ∃ template, Names selector template := by
    intro selector given
    rcases knownOf _ (List.mem_append_left _ (List.mem_map_of_mem given)) with ⟨template, names⟩
    exact ⟨template, Builtin.names_iff.mpr names⟩
  have secondKnown : ∀ selector ∈ verbosely, ∃ template, Names selector template := by
    intro selector given
    rcases knownOf _ (List.mem_append_right _ (List.mem_map_of_mem given)) with ⟨template, names⟩
    exact ⟨template, Builtin.names_iff.mpr names⟩
  have unfailing : (Memory.empty.put "out/notes.txt" "kept").failing = [] := rfl
  exact ⟨firstKnown, secondKnown, selects_tersely_iff, unfailing,
    agree_of_same_selection firstKnown secondKnown selects_tersely_iff .smart true Record.empty
      "out" false unfailing⟩

end Imprint.Stamp
