import Imprint.Proofs.Naming.Words

/-!
# The pieces of an identifier

Cutting an identifier into words drops its separators and nothing else: the words are the pieces
that are left, in order and in small letters.  Among the first 128 characters, small letters and
digits are left alone by a second cut, so words that are joined by underscores are found again.
Main statement: an identifier's words are its pieces, and its words name the same field as the
words behind underscores.
-/

namespace Imprint

open Text

/-! ## Pieces -/

/-- The ways to cut a text into pieces without separators, one behind the other.  Only separators
lie outside of the pieces. -/
inductive Cut : List Char → List (List Char) → Prop
  | done : Cut [] []
  | separator {c : Char} {rest : List Char} {pieces : List (List Char)}
      (separates : isWordSeparator c = true) (behind : Cut rest pieces) : Cut (c :: rest) pieces
  | piece {piece rest : List Char} {pieces : List (List Char)} (present : piece ≠ [])
      (solid : ∀ c ∈ piece, isWordSeparator c = false) (behind : Cut rest pieces) :
      Cut (piece ++ rest) (piece :: pieces)

namespace Cut

variable {text : List Char} {pieces : List (List Char)}

/-- No piece is empty. -/
theorem present (cut : Cut text pieces) : ∀ piece ∈ pieces, piece ≠ [] := by
  induction cut with
  | done => exact List.forall_mem_nil _
  | separator _ _ ih => exact ih
  | piece present _ _ ih => exact List.forall_mem_cons.mpr ⟨present, ih⟩

/-- No piece holds a separator. -/
theorem solid (cut : Cut text pieces) :
    ∀ piece ∈ pieces, ∀ c ∈ piece, isWordSeparator c = false := by
  induction cut with
  | done => exact List.forall_mem_nil _
  | separator _ _ ih => exact ih
  | piece _ solid _ ih => exact List.forall_mem_cons.mpr ⟨solid, ih⟩

/-- The pieces together are the text without its separators. -/
theorem flatten_eq (cut : Cut text pieces) :
    pieces.flatten = text.filter fun c => !isWordSeparator c := by
  induction cut with
  | done => rfl
  | separator separates _ ih => rw [ih, List.filter_cons_of_neg (by simp [separates])]
  | piece _ solid _ ih =>
      rw [List.flatten_cons, ih, List.filter_append]
      congr 1
      exact (List.filter_eq_self.mpr fun c member => by rw [solid c member, Bool.not_false]).symm

/-- The piece in hand, which may be empty yet, comes before the pieces of what follows. -/
theorem append {current : List Char} (solid : ∀ c ∈ current, isWordSeparator c = false)
    (behind : Cut text pieces) :
    Cut (current ++ text) ((if current.isEmpty then [] else [current]) ++ pieces) := by
  cases current with
  | nil => exact behind
  | cons c current => exact .piece (List.cons_ne_nil c current) solid behind

end Cut

/-- Words are cut out of an identifier. -/
theorem cut_wordPieces {current : List Char} (solid : ∀ c ∈ current, isWordSeparator c = false)
    (text : List Char) : Cut (current ++ text) (wordPieces current text) := by
  induction text generalizing current with
  | nil =>
      have last := Cut.done.append solid
      rwa [List.append_nil (ite _ _ _)] at last
  | cons c rest ih =>
      rw [wordPieces]
      by_cases separates : isWordSeparator c = true
      · rw [if_pos separates]
        exact .append solid (.separator separates (ih (List.forall_mem_nil _)))
      · have longer : ∀ d ∈ current ++ [c], isWordSeparator d = false := by
          simpa [or_imp, forall_and] using ⟨solid, by simpa using separates⟩
        rw [if_neg separates, List.append_cons]
        split
        · exact .piece (by simp) longer (ih (List.forall_mem_nil _))
        · exact ih longer

/-! ## The first 128 characters -/

namespace Text

/-- A fact about the first 128 characters can be checked for each of them. -/
@[elab_as_elim]
theorem of_isAscii {motive : Char → Prop} {c : Char} (ascii : isAscii c = true)
    (each : ∀ code < 128, motive (Char.ofNat code)) : motive c := by
  have found := each c.toNat (of_decide_eq_true ascii)
  rwa [Char.ofNat_toNat] at found

/-- A small form is no capital, and no separator unless it has been one. -/
theorem toLower_of_isAscii {c : Char} (ascii : isAscii c = true) :
    isAscii c.toLower = true ∧ isWordSeparator c.toLower = isWordSeparator c ∧
      isUppercase c.toLower = false ∧ c.toLower.toLower = c.toLower := by
  refine of_isAscii ascii ?_
  decide +kernel

end Text

/-- A word that a second cut leaves alone: no capital and no separator is in it, and its small form
is the word itself. -/
def IsSettledWord (word : List Char) : Prop :=
  word ≠ [] ∧ lower word = word ∧
    ∀ c ∈ word, isWordSeparator c = false ∧ isUppercase c = false

theorem isSettledWord_lower {piece : List Char} (ascii : ∀ c ∈ piece, isAscii c = true)
    (present : piece ≠ []) (solid : ∀ c ∈ piece, isWordSeparator c = false) :
    IsSettledWord (lower piece) := by
  have written : lower piece = piece.map Char.toLower := lowerFrom_of_ascii ascii false
  have small : ∀ c ∈ piece.map Char.toLower, isAscii c = true := by
    rw [List.forall_mem_map]
    exact fun c member => (toLower_of_isAscii (ascii c member)).1
  rw [written]
  refine ⟨by simpa using present, ?_, ?_⟩
  · rw [lower, lowerFrom_of_ascii small, List.map_map]
    exact List.map_congr_left fun c member => (toLower_of_isAscii (ascii c member)).2.2.2
  · rw [List.forall_mem_map]
    intro c member
    obtain ⟨-, same, noCapital, -⟩ := toLower_of_isAscii (ascii c member)
    exact ⟨same.trans (solid c member), noCapital⟩

/-- The words of an identifier of the first 128 characters are settled. -/
theorem isSettledWord_of_mem_splitWords {text : List Char}
    (ascii : ∀ c ∈ text, isAscii c = true) : ∀ word ∈ splitWords text, IsSettledWord word := by
  have cut : Cut text (wordPieces [] text) :=
    cut_wordPieces (List.forall_mem_nil _) text
  rw [splitWords, List.forall_mem_map]
  intro piece member
  have within : ∀ c ∈ piece, c ∈ text := fun c inside => by
    have kept : c ∈ (wordPieces [] text).flatten := List.mem_flatten.mpr ⟨piece, member, inside⟩
    rw [cut.flatten_eq] at kept
    exact List.mem_of_mem_filter kept
  exact isSettledWord_lower (fun c inside => ascii c (within c inside)) (cut.present piece member)
    (cut.solid piece member)

/-! ## Words behind underscores -/

theorem intercalate_cons_eq_flatMap (first : List Char) (others : List (List Char)) :
    ['_'].intercalate (first :: others) = first ++ others.flatMap ('_' :: ·) := by
  induction others generalizing first with
  | nil => rw [List.intercalate_singleton, List.flatMap_nil, List.append_nil]
  | cons second others ih =>
      rw [List.intercalate_cons_cons, ih, List.flatMap_cons, List.append_assoc]
      rfl

/-- Settled words that are joined by underscores are found again. -/
theorem splitWords_intercalate {words : List (List Char)}
    (settled : ∀ word ∈ words, IsSettledWord word) :
    splitWords (['_'].intercalate words) = words := by
  cases words with
  | nil => rfl
  | cons first others =>
      have capitalless : OneCase (first ++ others.flatMap ('_' :: ·)) := by
        refine .inl fun c member => ?_
        rw [List.mem_append, List.mem_flatMap] at member
        rcases member with inFirst | ⟨word, listed, inWord⟩
        · exact ((settled first List.mem_cons_self).2.2 c inFirst).2
        · rcases List.mem_cons.mp inWord with rfl | inWord
          · decide
          · exact ((settled word (List.mem_cons_of_mem first listed)).2.2 c inWord).2
      have pieces : ∀ piece ∈ first :: others,
          piece ≠ [] ∧ ∀ c ∈ piece, isWordSeparator c = false := fun piece member =>
        ⟨(settled piece member).1, fun c inside => ((settled piece member).2.2 c inside).1⟩
      rw [intercalate_cons_eq_flatMap, splitWords,
        wordPieces_separated (by decide) pieces capitalless]
      exact (List.map_congr_left fun word member => (settled word member).2.1).trans
        (List.map_id _)

/-- Settled words are joined by underscores as they are. -/
theorem CaseRule.join_snake {words : List (List Char)}
    (settled : ∀ word ∈ words, IsSettledWord word) :
    (CaseRule.standard .snake).join words = ['_'].intercalate words := by
  cases words with
  | nil => rfl
  | cons first others =>
      have same : (first :: others).map lower = first :: others :=
        (List.map_congr_left fun word member => (settled word member).2.1).trans (List.map_id _)
      rw [List.map_cons, List.cons.injEq] at same
      have separated : (CaseRule.standard .snake).separator = some '_' := rfl
      rw [CaseRule.join_cons_of_separator separated, intercalate_cons_eq_flatMap]
      exact congrArg₂ (· ++ List.flatMap ('_' :: ·) ·) same.1 same.2

/-! ## Identifiers -/

namespace Field

/-- The lowercase words of an identifier. -/
def wordsOf (identifier : String) : List String :=
  (splitWords identifier.toList).map String.ofList

theorem resolve?_eq (identifier : String) :
    resolve? identifier = ofWords? (wordsOf identifier) :=
  rfl

theorem map_toList_wordsOf (identifier : String) :
    (wordsOf identifier).map String.toList = splitWords identifier.toList := by
  rw [wordsOf, List.map_map]
  exact (List.map_congr_left fun _ _ => String.toList_ofList).trans (List.map_id _)

/-- The words of an identifier are its pieces in small letters: consecutive, not empty, and
together the identifier without its separators.  In an identifier of the first 128 characters the
same words are found again behind underscores, so it names the same field as its form under the
convention that joins words so. -/
theorem wordsOf_pieces_and_joined (identifier : String) :
    (∃ pieces, Cut identifier.toList pieces ∧ (∀ piece ∈ pieces, piece ≠ []) ∧
        pieces.flatten = identifier.toList.filter (fun c => !isWordSeparator c) ∧
        wordsOf identifier = pieces.map fun piece => String.ofList (lower piece)) ∧
      ((∀ c ∈ identifier.toList, isAscii c = true) →
        wordsOf ("_".intercalate (wordsOf identifier)) = wordsOf identifier ∧
        (CaseRule.standard .snake).apply (wordsOf identifier) =
          "_".intercalate (wordsOf identifier) ∧
        resolve? ((CaseRule.standard .snake).apply (wordsOf identifier)) =
          resolve? identifier) := by
  constructor
  · have cut : Cut identifier.toList (wordPieces [] identifier.toList) :=
      cut_wordPieces (List.forall_mem_nil _) identifier.toList
    exact ⟨_, cut, cut.present, cut.flatten_eq, List.map_map⟩
  · intro ascii
    have settled := isSettledWord_of_mem_splitWords ascii
    have joined : ("_".intercalate (wordsOf identifier)).toList =
        ['_'].intercalate (splitWords identifier.toList) := by
      rw [String.toList_intercalate, map_toList_wordsOf]
      rfl
    have again : wordsOf ("_".intercalate (wordsOf identifier)) = wordsOf identifier := by
      rw [wordsOf, joined, splitWords_intercalate settled]
      rfl
    have snake : (CaseRule.standard .snake).apply (wordsOf identifier) =
        "_".intercalate (wordsOf identifier) := by
      rw [CaseRule.apply, map_toList_wordsOf, CaseRule.join_snake settled, ← joined,
        String.ofList_toList]
    refine ⟨again, snake, ?_⟩
    rw [snake, resolve?_eq, again, resolve?_eq]

/-- An identifier with an acronym in it, which ends before a capital that a small letter follows,
and with a space. -/
theorem wordsOf_pieces_and_joined_acronym :
    (∀ c ∈ "commitTAGOr Branch".toList, isAscii c = true) ∧
      wordsOf "commitTAGOr Branch" = ["commit", "tag", "or", "branch"] ∧
      wordsOf ("_".intercalate (wordsOf "commitTAGOr Branch")) = wordsOf "commitTAGOr Branch" ∧
      resolve? ((CaseRule.standard .snake).apply (wordsOf "commitTAGOr Branch")) =
        resolve? "commitTAGOr Branch" := by
  have ascii : ∀ c ∈ "commitTAGOr Branch".toList, isAscii c = true :=
    List.all_eq_true.mp (by decide)
  obtain ⟨again, -, same⟩ := (wordsOf_pieces_and_joined "commitTAGOr Branch").2 ascii
  exact ⟨ascii, by decide +kernel, again, same⟩

end Field

end Imprint
