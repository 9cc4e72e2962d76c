import Imprint.Storage.Path

/-!
# Where a joined path leads

Paths are joined as texts but compared by their components.  Main statement: the components of a
joined path are those of the directory followed by those of the name, unless the name is absolute
or there is no directory.
-/

namespace Imprint.Storage.Path

/-! ## Pieces -/

theorem splitSlash_ne_nil (text : List Char) : splitSlash text ≠ [] := by
  cases text with
  | nil => exact List.cons_ne_nil _ _
  | cons c rest =>
      rw [splitSlash]
      split
      · exact List.cons_ne_nil _ _
      · split
        · exact List.cons_ne_nil _ _
        · exact List.cons_ne_nil _ _

/-- A slash ends one piece and begins the next. -/
theorem splitSlash_append_slash (first second : List Char) :
    splitSlash (first ++ '/' :: second) = splitSlash first ++ splitSlash second := by
  induction first with
  | nil => rfl
  | cons c first ih =>
      rw [List.cons_append, splitSlash, splitSlash, ih]
      by_cases slash : (c == '/') = true
      · rw [if_pos slash, if_pos slash, List.cons_append]
      · rw [if_neg slash, if_neg slash]
        cases pieces : splitSlash first with
        | nil => exact absurd pieces (splitSlash_ne_nil first)
        | cons piece pieces => rfl

theorem eq_nil_of_splitSlash {text : List Char} (split : splitSlash text = [[]]) : text = [] := by
  cases text with
  | nil => rfl
  | cons c rest =>
      rw [splitSlash] at split
      split at split
      · exact absurd (List.cons.inj split).2 (splitSlash_ne_nil rest)
      · split at split <;> simp at split

theorem bodyComponents_append (first second : List (List Char)) :
    bodyComponents (first ++ second) = bodyComponents first ++ bodyComponents second := by
  rw [bodyComponents, List.filter_append, List.map_append]
  rfl

/-! ## Components -/

/-- What the first piece of a path contributes by standing first: a slash in front of everything
is the root, and a leading dot is the current directory. -/
def anchor (piece : List Char) (others : List (List Char)) : List Component :=
  if piece = [] then if others = [] then [] else [.root]
  else if piece = ['.'] then [.current]
  else []

theorem components_eq {path : String} {piece : List Char} {others : List (List Char)}
    (split : splitSlash path.toList = piece :: others) :
    components path = anchor piece others ++ bodyComponents (piece :: others) := by
  rw [components, split, anchor]
  by_cases rooted : piece = []
  · subst rooted
    rw [if_pos rfl]
    cases others with
    | nil => rfl
    | cons next others => rfl
  · rw [if_neg rooted]
    by_cases dotted : piece = ['.']
    · subst dotted
      rfl
    · rw [if_neg dotted]
      split
      · next same => exact absurd (List.cons.inj same).1 rooted
      · next same => exact absurd (List.cons.inj same).1 dotted
      · rfl

/-- What follows a slash adds its components, unless the slash is the root. -/
theorem components_append_slash {directory : List Char} (nonempty : directory ≠ [])
    (name : List Char) :
    components (String.ofList (directory ++ '/' :: name)) =
      components (String.ofList directory) ++ bodyComponents (splitSlash name) := by
  obtain ⟨piece, others, split⟩ := List.exists_cons_of_ne_nil (splitSlash_ne_nil directory)
  have joined : splitSlash (String.ofList (directory ++ '/' :: name)).toList =
      piece :: (others ++ splitSlash name) := by
    rw [String.toList_ofList, splitSlash_append_slash, split, List.cons_append]
  have alone : splitSlash (String.ofList directory).toList = piece :: others := by
    rw [String.toList_ofList, split]
  have anchored : anchor piece (others ++ splitSlash name) = anchor piece others := by
    rw [anchor, anchor]
    by_cases rooted : piece = []
    · have many : others ≠ [] := by
        rintro rfl
        exact nonempty (eq_nil_of_splitSlash (rooted ▸ split))
      rw [if_neg many, if_neg (List.append_ne_nil_of_left_ne_nil many _)]
    · rw [if_neg rooted, if_neg rooted]
  rw [components_eq joined, components_eq alone, anchored, ← List.cons_append,
    bodyComponents_append, List.append_assoc]

theorem components_root (name : List Char) :
    components (String.ofList ('/' :: name)) = .root :: bodyComponents (splitSlash name) := by
  have split : splitSlash (String.ofList ('/' :: name)).toList = [] :: splitSlash name := by
    rw [String.toList_ofList]
    rfl
  rw [components_eq split, anchor, if_pos rfl, if_neg (splitSlash_ne_nil name)]
  rfl

/-! ## Joining -/

/-- The components of a name in a directory. -/
def inside (directory name : String) : List Component :=
  if isAbsolute name || directory.isEmpty then components name
  else components directory ++ bodyComponents (splitSlash name.toList)

/-- A joined path leads to the name in the directory. -/
theorem components_join (directory name : String) :
    components (join directory name) = inside directory name := by
  rw [join, inside]
  by_cases alone : (isAbsolute name || directory.isEmpty) = true
  · rw [if_pos alone, if_pos alone]
  · rw [if_neg alone, if_neg alone]
    have nonempty : directory.toList ≠ [] := by
      rw [Bool.or_eq_true, not_or, String.isEmpty_iff] at alone
      exact mt String.toList_eq_nil_iff.mp alone.2
    by_cases slash : (directory.toList.getLast? == some '/') = true
    · rw [if_pos slash]
      obtain ⟨above, written⟩ := List.getLast?_eq_some_iff.mp (beq_iff_eq.mp slash)
      have joined : directory ++ name = String.ofList (above ++ '/' :: name.toList) := by
        rw [← String.toList_inj, String.toList_append, written, String.toList_ofList,
          List.append_assoc]
        rfl
      have single : directory = String.ofList (above ++ ['/']) := by
        rw [← String.toList_inj, written, String.toList_ofList]
      rw [joined, single]
      cases above with
      | nil => rw [List.nil_append, List.nil_append, components_root, components_root]; rfl
      | cons c above =>
          rw [components_append_slash (List.cons_ne_nil _ _),
            components_append_slash (List.cons_ne_nil _ _)]
          simp [bodyComponents, splitSlash, isIdle]
    · rw [if_neg slash]
      have joined : directory ++ "/" ++ name =
          String.ofList (directory.toList ++ '/' :: name.toList) := by
        rw [← String.toList_inj, String.toList_append, String.toList_append, String.toList_ofList,
          List.append_assoc, String.toList_ofList]
        rfl
      rw [joined, components_append_slash nonempty, String.ofList_toList]

/-- Whether two relative names meet does not depend on the directory that they are put into. -/
theorem inside_eq_inside_iff {directory first second : String} (nonempty : directory ≠ "")
    (firstRelative : isAbsolute first = false) (secondRelative : isAbsolute second = false) :
    inside directory first = inside directory second ↔
      bodyComponents (splitSlash first.toList) = bodyComponents (splitSlash second.toList) := by
  have named : ¬ directory.isEmpty = true := mt String.isEmpty_iff.mp nonempty
  rw [inside, inside, firstRelative, secondRelative, Bool.false_or, if_neg named, if_neg named,
    List.append_cancel_left_eq]

end Imprint.Storage.Path
