import Imprint.Proofs.Storage.Memory
import Imprint.Proofs.Storage.Path
import Mathlib.Data.List.DropRight

/-!
# The directory above a path

The directory above a path has the components of the path without the last one.  So once a
directory is there, files can be written into it, however the directory is spelled.
-/

namespace Imprint.Storage

namespace Path

/-! ## Pieces and texts -/

theorem slash_not_mem_of_mem_splitSlash (text : List Char) :
    ∀ piece ∈ splitSlash text, '/' ∉ piece := by
  induction text with
  | nil => simp [splitSlash]
  | cons c rest ih =>
      rw [splitSlash]
      by_cases slash : (c == '/') = true
      · rw [if_pos slash]
        intro piece listed
        rcases List.mem_cons.mp listed with rfl | listed
        · exact List.not_mem_nil
        · exact ih piece listed
      · rw [if_neg slash]
        obtain ⟨first, others, split⟩ := List.exists_cons_of_ne_nil (splitSlash_ne_nil rest)
        rw [split] at ih ⊢
        intro piece listed
        rcases List.mem_cons.mp listed with rfl | listed
        · rw [List.mem_cons, not_or]
          exact ⟨fun same => slash (beq_iff_eq.mpr same.symm), ih first List.mem_cons_self⟩
        · exact ih piece (List.mem_cons_of_mem _ listed)

/-- A piece without slashes is not split. -/
theorem splitSlash_piece {piece : List Char} (whole : '/' ∉ piece) :
    splitSlash piece = [piece] := by
  induction piece with
  | nil => rfl
  | cons c rest ih =>
      rw [List.mem_cons, not_or] at whole
      have other : ¬ (c == '/') = true := fun slash => whole.1 (beq_iff_eq.mp slash).symm
      rw [splitSlash, if_neg other, ih whole.2]

theorem splitSlash_joinPieces {pieces : List (List Char)} (nonempty : pieces ≠ [])
    (whole : ∀ piece ∈ pieces, '/' ∉ piece) : splitSlash (joinPieces pieces) = pieces := by
  induction pieces with
  | nil => contradiction
  | cons piece pieces ih =>
      have alone := splitSlash_piece (whole piece List.mem_cons_self)
      cases pieces with
      | nil => exact alone
      | cons next pieces =>
          have rest := ih (List.cons_ne_nil _ _) fun piece listed =>
            whole piece (List.mem_cons_of_mem _ listed)
          rw [joinPieces, splitSlash_append_slash, alone, rest]
          rfl

theorem bodyComponents_joinPieces {pieces : List (List Char)}
    (whole : ∀ piece ∈ pieces, '/' ∉ piece) :
    bodyComponents (splitSlash (joinPieces pieces)) = bodyComponents pieces := by
  cases pieces with
  | nil => rfl
  | cons piece pieces => rw [splitSlash_joinPieces (List.cons_ne_nil _ _) whole]

/-! ## The last piece -/

theorem trimPieces_append_singleton (pieces : List (List Char)) (piece : List Char) :
    trimPieces (pieces ++ [piece]) =
      if isIdle piece then trimPieces pieces else pieces ++ [piece] :=
  List.rdropWhile_concat isIdle pieces piece

theorem initial_trimPieces (pieces : List (List Char)) : trimPieces pieces <+: pieces :=
  List.rdropWhile_prefix isIdle pieces

/-- Idle pieces at the end contribute nothing. -/
theorem bodyComponents_trimPieces (pieces : List (List Char)) :
    bodyComponents (trimPieces pieces) = bodyComponents pieces := by
  induction pieces using List.reverseRecOn with
  | nil => rfl
  | append_singleton pieces piece ih =>
      rw [trimPieces_append_singleton]
      by_cases idle : isIdle piece = true
      · rw [if_pos idle, ih, bodyComponents_append]
        simp [bodyComponents, idle]
      · rw [if_neg idle]

/-- The last piece that is not idle contributes the last component. -/
theorem bodyComponents_dropLast_trimPieces (pieces : List (List Char)) :
    bodyComponents (trimPieces pieces).dropLast = (bodyComponents pieces).dropLast := by
  induction pieces using List.reverseRecOn with
  | nil => rfl
  | append_singleton pieces piece ih =>
      rw [trimPieces_append_singleton, bodyComponents_append]
      by_cases idle : isIdle piece = true
      · have nothing : bodyComponents [piece] = [] := by simp [bodyComponents, idle]
        rw [if_pos idle, ih, nothing, List.append_nil]
      · have last : bodyComponents [piece] = [componentOf piece] := by simp [bodyComponents, idle]
        rw [if_neg idle, List.dropLast_concat, last, List.dropLast_concat]

theorem of_parentPieces_eq_none {pieces : List (List Char)} (none : parentPieces pieces = none) :
    bodyComponents pieces = [] := by
  rw [parentPieces] at none
  split at none
  case h_1 empty => rw [← bodyComponents_trimPieces, empty]; rfl
  case h_2 => contradiction

/-- Where every piece is idle, nothing is left. -/
theorem trimPieces_eq_nil {pieces : List (List Char)} (nothing : bodyComponents pieces = []) :
    trimPieces pieces = [] := by
  apply List.rdropWhile_eq_nil_iff.mpr
  intro piece listed
  rw [bodyComponents, List.map_eq_nil_iff, List.filter_eq_nil_iff] at nothing
  simpa using nothing piece listed

theorem of_parentPieces_eq_some {pieces above : List (List Char)}
    (found : parentPieces pieces = some above) :
    above <+: pieces ∧ bodyComponents above = (bodyComponents pieces).dropLast ∧
      bodyComponents pieces ≠ [] := by
  rw [parentPieces] at found
  split at found
  case h_1 => contradiction
  case h_2 piece others trimmed =>
    rw [← trimmed] at found
    cases found
    refine ⟨?_, ?_, ?_⟩
    · have shorter : (trimPieces pieces).dropLast <+: trimPieces pieces := List.dropLast_prefix _
      exact (initial_trimPieces _).trans (shorter.trans (initial_trimPieces pieces))
    · rw [bodyComponents_trimPieces, bodyComponents_dropLast_trimPieces]
    · intro nothing
      rw [trimPieces_eq_nil nothing] at trimmed
      contradiction

/-! ## The directory above -/

variable {path parent : String} {piece next : List Char} {others : List (List Char)}

theorem components_of_rooted (split : splitSlash path.toList = [] :: next :: others) :
    components path = .root :: bodyComponents (next :: others) := by
  rw [components, split]

theorem components_of_dotted (split : splitSlash path.toList = ['.'] :: others) :
    components path = .current :: bodyComponents others := by
  rw [components, split]
  rfl

theorem components_of_plain (split : splitSlash path.toList = piece :: others)
    (notRooted : piece = [] → others = []) (notDotted : piece ≠ ['.']) :
    components path = bodyComponents (piece :: others) := by
  rw [components_eq split, anchor]
  by_cases blank : piece = []
  · rw [if_pos blank, if_pos (notRooted blank), List.nil_append]
  · rw [if_neg blank, if_neg notDotted, List.nil_append]

variable {above : List (List Char)}

/-- Some pieces of a path hold no slashes. -/
theorem slash_not_mem_of_initial {pieces : List (List Char)} (front : List (List Char))
    (split : splitSlash path.toList = front ++ pieces) (initial : above <+: pieces) :
    ∀ piece ∈ above, '/' ∉ piece := by
  intro piece listed
  apply slash_not_mem_of_mem_splitSlash path.toList
  rw [split]
  exact List.mem_append_right front (initial.subset listed)

/-- A root stays, whatever is left behind it. -/
theorem components_parent_of_rooted (split : splitSlash path.toList = [] :: next :: others)
    (parted : parentPieces (next :: others) = some above) :
    components (String.ofList ('/' :: joinPieces above)) = (components path).dropLast := by
  obtain ⟨initial, same, nonempty⟩ := of_parentPieces_eq_some parted
  have whole := slash_not_mem_of_initial [[]] split initial
  rw [components_root, bodyComponents_joinPieces whole, same, components_of_rooted split,
    List.dropLast_cons_of_ne_nil nonempty]

/-- A leading dot stays if something is left behind it. -/
theorem components_parent_of_dotted (split : splitSlash path.toList = ['.'] :: others)
    (parted : parentPieces others = some above) :
    components (String.ofList (joinPieces (['.'] :: above))) = (components path).dropLast := by
  obtain ⟨initial, same, nonempty⟩ := of_parentPieces_eq_some parted
  have longer : ['.'] :: above <+: ['.'] :: others := (List.prefix_cons_inj _).mpr initial
  have whole := slash_not_mem_of_initial [] split longer
  have apart : splitSlash (String.ofList (joinPieces (['.'] :: above))).toList =
      ['.'] :: above := by
    rw [String.toList_ofList, splitSlash_joinPieces (List.cons_ne_nil _ _) whole]
  rw [components_of_dotted apart, components_of_dotted split, same,
    List.dropLast_cons_of_ne_nil nonempty]

theorem components_parent_of_plain (split : splitSlash path.toList = piece :: others)
    (notRooted : piece = [] → others = []) (notDotted : piece ≠ ['.'])
    (parted : parentPieces (piece :: others) = some above) :
    components (String.ofList (joinPieces above)) = (components path).dropLast := by
  obtain ⟨initial, same, -⟩ := of_parentPieces_eq_some parted
  rw [components_of_plain split notRooted notDotted, ← same]
  cases above with
  | nil => rfl
  | cons first rest =>
      have whole := slash_not_mem_of_initial [] split initial
      have apart : splitSlash (String.ofList (joinPieces (first :: rest))).toList =
          first :: rest := by
        rw [String.toList_ofList, splitSlash_joinPieces (List.cons_ne_nil _ _) whole]
      obtain ⟨rfl, shorter⟩ := List.cons_prefix_cons.mp initial
      refine components_of_plain apart (fun blank => ?_) notDotted
      rw [notRooted blank] at shorter
      exact List.prefix_nil.mp shorter

/-- The directory above a path has all its components but the last. -/
theorem components_parent? (found : parent? path = some parent) :
    components parent = (components path).dropLast := by
  rw [parent?, Option.map_eq_some_iff] at found
  obtain ⟨text, found, rfl⟩ := found
  split at found
  case h_1 next others split =>
    obtain ⟨above, parted, rfl⟩ := Option.map_eq_some_iff.mp found
    exact components_parent_of_rooted split parted
  case h_2 others split =>
    cases parted : parentPieces others with
    | none =>
        rw [parted] at found
        cases found
        rw [components_of_dotted split, of_parentPieces_eq_none parted]
        rfl
    | some above =>
        rw [parted] at found
        cases found
        exact components_parent_of_dotted split parted
  case h_3 notRooted notDotted =>
    obtain ⟨piece, others, split⟩ := List.exists_cons_of_ne_nil (splitSlash_ne_nil path.toList)
    obtain ⟨above, parted, rfl⟩ := Option.map_eq_some_iff.mp found
    rw [split] at parted
    refine components_parent_of_plain split ?_ ?_ parted
    · rintro rfl
      by_contra many
      obtain ⟨next, others, rfl⟩ := List.exists_cons_of_ne_nil many
      exact notRooted next others split
    · rintro rfl
      exact notDotted others split

/-- Only the empty path has no components. -/
theorem eq_empty_of_components_eq_nil (nothing : components path = []) : path = "" := by
  obtain ⟨piece, others, split⟩ := List.exists_cons_of_ne_nil (splitSlash_ne_nil path.toList)
  rw [components_eq split, List.append_eq_nil_iff, anchor] at nothing
  by_cases blank : piece = []
  · have single : others = [] := by
      by_contra many
      simp [blank, many] at nothing
    rw [blank, single] at split
    exact String.toList_eq_nil_iff.mp (eq_nil_of_splitSlash split)
  · by_cases dotted : piece = ['.']
    · simp [dotted] at nothing
    · have busy : isIdle piece = false := by simp [isIdle, blank, dotted]
      simp [bodyComponents, busy] at nothing

/-- A path without a directory above it has one component at most. -/
theorem dropLast_components_of_parent?_eq_none (topmost : parent? path = none) :
    (components path).dropLast = [] := by
  rw [parent?, Option.map_eq_none_iff] at topmost
  split at topmost
  case h_1 next others split =>
    have nothing := of_parentPieces_eq_none (Option.map_eq_none_iff.mp topmost)
    rw [components_of_rooted split, nothing]
    rfl
  case h_2 others split =>
    cases parted : parentPieces others <;> rw [parted] at topmost <;> contradiction
  case h_3 notRooted notDotted =>
    obtain ⟨piece, others, split⟩ := List.exists_cons_of_ne_nil (splitSlash_ne_nil path.toList)
    have nothing := of_parentPieces_eq_none (Option.map_eq_none_iff.mp topmost)
    rw [split] at nothing
    rw [components_eq split, nothing, List.append_nil, anchor]
    split_ifs <;> rfl

/-! ## Prefixes -/

theorem mem_prefixesOf_iff {α : Type} {list initial : List α} :
    initial ∈ prefixesOf list ↔ initial ≠ [] ∧ initial <+: list := by
  induction list generalizing initial with
  | nil =>
      rw [prefixesOf, List.prefix_nil]
      exact iff_of_false List.not_mem_nil fun both => both.1 both.2
  | cons first rest ih =>
      rw [prefixesOf, List.mem_cons, List.mem_map]
      cases initial with
      | nil => simp
      | cons second shorter =>
          rw [List.cons_prefix_cons]
          simp only [ih]
          cases shorter with
          | nil => simp
          | cons third shortest => simp [and_comm, eq_comm]

theorem mem_prefixesOf_self {α : Type} {list : List α} (nonempty : list ≠ []) :
    list ∈ prefixesOf list :=
  mem_prefixesOf_iff.mpr ⟨nonempty, List.prefix_rfl⟩

/-- An entry of a directory is none of the directories above it. -/
theorem append_singleton_not_mem_prefixesOf {α : Type} (list : List α) (last : α) :
    list ++ [last] ∉ prefixesOf list := by
  intro listed
  have short := (mem_prefixesOf_iff.mp listed).2.length_le
  rw [List.length_append, List.length_singleton] at short
  omega

end Path

/-! ## Writing into a directory -/

namespace Memory

/-- The directory that a file belongs into is there if it is listed, or if the file has one
component at most. -/
theorem hasParent_iff {memory : Memory} {path : String} :
    memory.hasParent path = true ↔
      (Path.components path).dropLast = [] ∨
        (Path.components path).dropLast ∈ memory.directories := by
  rw [hasParent]
  split
  case h_1 parent found =>
    rw [← Path.components_parent? found, Bool.or_eq_true, hasDirectory, List.contains_iff_mem]
    refine or_congr_left ⟨fun blank => ?_, fun nothing => ?_⟩
    · rw [String.isEmpty_iff.mp blank]
      rfl
    · exact String.isEmpty_iff.mpr (Path.eq_empty_of_components_eq_nil nothing)
  case h_2 topmost =>
    exact iff_of_true rfl (.inl (Path.dropLast_components_of_parent?_eq_none topmost))

/-- Once a directory is there, so is the directory above each of its entries. -/
theorem hasParent_createDirectories {memory : Memory} {directory path : String}
    {name : Component} (entry : Path.components path = Path.components directory ++ [name]) :
    (memory.createDirectories directory).hasParent path = true := by
  rw [hasParent_iff, entry, List.dropLast_concat, mem_directories_createDirectories]
  by_cases nothing : Path.components directory = []
  · exact .inl nothing
  · exact .inr (.inr (Path.mem_prefixesOf_self nothing))

end Memory

end Imprint.Storage
