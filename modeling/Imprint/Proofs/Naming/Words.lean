import Imprint.Naming.CaseRule
import Imprint.Naming.Words
import Mathlib.Data.List.Forall2

/-!
# Splitting undoes joining

An identifier is split where its words have been joined: at separators, or before the capitals
that words begin with.  Nothing else ends a word, since the letters between two such places are of
one case.  A capital is only told apart from an acronym by a small letter next to it, so words that
are joined without a separator need two letters.  Main statement: words of small letters that are
joined under a convention are split into the same words.
-/

namespace Imprint

open Text

/-! ## Small letters and their capitals -/

namespace Text

theorem isLower_iff (c : Char) : c.isLower = true ↔ 97 ≤ c.toNat ∧ c.toNat ≤ 122 := by
  have bounds : c.isLower = (decide (97 ≤ c.val) && decide (c.val ≤ 122)) := rfl
  rw [bounds, Bool.and_eq_true, decide_eq_true_iff, decide_eq_true_iff]
  exact and_congr UInt32.le_iff_toNat_le UInt32.le_iff_toNat_le

/-- A fact about small letters can be checked for each of them. -/
@[elab_as_elim]
theorem of_isLower {motive : Char → Prop} {c : Char} (small : c.isLower = true)
    (each : ∀ place < 26, motive (Char.ofNat (97 + place))) : motive c := by
  obtain ⟨first, last⟩ := (isLower_iff c).mp small
  have found := each (c.toNat - 97) (by omega)
  rwa [Nat.add_sub_cancel' first, Char.ofNat_toNat] at found

/-- What splitting sees of a small letter. -/
theorem small_of_isLower {c : Char} (small : c.isLower = true) :
    isWordSeparator c = false ∧ isUppercase c = false ∧ isLowercase c = true := by
  refine of_isLower small ?_
  decide

/-- What splitting sees of the capital of a small letter. -/
theorem capital_of_isLower {c : Char} (small : c.isLower = true) :
    isWordSeparator c.toUpper = false ∧ isUppercase c.toUpper = true ∧
      isLowercase c.toUpper = false ∧ c.toUpper.isDigit = false := by
  refine of_isLower small ?_
  decide

/-- Casing maps small letters and their capitals to each other. -/
theorem case_of_isLower {c : Char} (small : c.isLower = true) :
    isAscii c = true ∧ isAscii c.toUpper = true ∧ c.toLower = c ∧ c.toUpper.toLower = c := by
  refine of_isLower small ?_
  decide

theorem lowerFrom_of_ascii {text : List Char} (ascii : ∀ c ∈ text, isAscii c = true)
    (afterCased : Bool) : lowerFrom afterCased text = text.map Char.toLower := by
  induction text generalizing afterCased with
  | nil => rfl
  | cons c text ih =>
      rw [List.forall_mem_cons] at ascii
      have other : (c == 'Σ') = false := by
        rw [beq_eq_false_iff_ne]
        rintro rfl
        exact absurd ascii.1 (by decide)
      rw [lowerFrom, other, lowerChar, if_pos ascii.1, ih ascii.2]
      rfl

theorem upper_of_ascii {text : List Char} (ascii : ∀ c ∈ text, isAscii c = true) :
    upper text = text.map Char.toUpper := by
  induction text with
  | nil => rfl
  | cons c text ih =>
      rw [List.forall_mem_cons] at ascii
      rw [upper, List.flatMap_cons, upperChar, if_pos ascii.1, ← upper, ih ascii.2]
      rfl

end Text

/-! ## Cased words -/

/-- A small letter as it is written in some case. -/
def IsCased (written letter : Char) : Prop :=
  letter.isLower = true ∧ (written = letter ∨ written = letter.toUpper)

/-- Whatever its case, a letter is no separator and comes back from its small form. -/
theorem IsCased.toLower_eq {written letter : Char} (cased : IsCased written letter) :
    (isAscii written = true ∧ isWordSeparator written = false) ∧ written.toLower = letter := by
  obtain ⟨small, written⟩ := cased
  obtain ⟨ascii, capitalAscii, same, back⟩ := case_of_isLower small
  rcases written with rfl | rfl
  · exact ⟨⟨ascii, (small_of_isLower small).1⟩, same⟩
  · exact ⟨⟨capitalAscii, (capital_of_isLower small).1⟩, back⟩

namespace WordCase

variable {word : List Char}

theorem apply_lower (small : ∀ c ∈ word, c.isLower = true) : lower.apply word = word := by
  rw [apply, Text.lower, lowerFrom_of_ascii fun c member => (case_of_isLower (small c member)).1]
  exact (List.map_congr_left fun c member => (case_of_isLower (small c member)).2.2.1).trans
    (List.map_id word)

theorem apply_upper (small : ∀ c ∈ word, c.isLower = true) :
    upper.apply word = word.map Char.toUpper :=
  upper_of_ascii fun c member => (case_of_isLower (small c member)).1

theorem apply_capitalized {first : Char} (small : ∀ c ∈ first :: word, c.isLower = true) :
    capitalized.apply (first :: word) = first.toUpper :: word := by
  rw [List.forall_mem_cons] at small
  have rest := apply_lower small.2
  rw [apply] at rest
  rw [apply, rest, upperChar, if_pos (case_of_isLower small.1).1]
  rfl

/-- Every case writes a word letter by letter. -/
theorem forall₂_apply (case : WordCase) (small : ∀ c ∈ word, c.isLower = true) :
    List.Forall₂ IsCased (case.apply word) word := by
  have same {letters : List Char} (small : ∀ c ∈ letters, c.isLower = true) :
      List.Forall₂ IsCased letters letters :=
    List.forall₂_same.mpr fun c member => ⟨small c member, .inl rfl⟩
  cases case with
  | lower =>
      rw [apply_lower small]
      exact same small
  | upper =>
      rw [apply_upper small, List.forall₂_map_left_iff, List.forall₂_same]
      exact fun c member => ⟨small c member, .inr rfl⟩
  | capitalized =>
      cases word with
      | nil => exact .nil
      | cons first word =>
          rw [apply_capitalized small]
          rw [List.forall_mem_cons] at small
          exact .cons ⟨small.1, .inr rfl⟩ (same small.2)

/-- A word in any case is as long as before and holds no separator. -/
theorem apply_of_small (case : WordCase) (small : ∀ c ∈ word, c.isLower = true) :
    (case.apply word).length = word.length ∧
      ∀ c ∈ case.apply word, isAscii c = true ∧ isWordSeparator c = false := by
  have cased := case.forall₂_apply small
  exact ⟨cased.length_eq,
    ((List.forall₂_and_left _ _).mp (cased.imp fun _ _ cased => cased.toLower_eq)).1⟩

/-- The case of a word is lost when its letters are made small. -/
theorem map_toLower_apply (case : WordCase) (small : ∀ c ∈ word, c.isLower = true) :
    (case.apply word).map Char.toLower = word := by
  rw [← List.forall₂_eq_eq_eq, List.forall₂_map_left_iff]
  exact (case.forall₂_apply small).imp fun _ _ cased => cased.toLower_eq.2

theorem lower_apply (case : WordCase) (small : ∀ c ∈ word, c.isLower = true) :
    Text.lower (case.apply word) = word := by
  rw [Text.lower, lowerFrom_of_ascii fun c member => ((case.apply_of_small small).2 c member).1,
    case.map_toLower_apply small]

theorem map_lower_map_apply (case : WordCase) {words : List (List Char)}
    (small : ∀ word ∈ words, ∀ c ∈ word, c.isLower = true) :
    (words.map case.apply).map Text.lower = words := by
  rw [List.map_map]
  exact (List.map_congr_left fun word member => case.lower_apply (small word member)).trans
    (List.map_id words)

end WordCase

/-! ## Words between separators -/

/-- Letters of one case: no capital among them, or no small letter and no digit. -/
def OneCase (text : List Char) : Prop :=
  (∀ c ∈ text, isUppercase c = false) ∨ ∀ c ∈ text, isLowercase c = false ∧ c.isDigit = false

theorem OneCase.of_suffix {text rest : List Char} (oneCase : OneCase text) (ends : rest <:+ text) :
    OneCase rest :=
  oneCase.imp (fun capitalless c member => capitalless c (ends.subset member))
    fun smallless c member => smallless c (ends.subset member)

/-- Between letters of one case no word ends. -/
theorem endsWord_of_oneCase {c : Char} {rest : List Char} (oneCase : OneCase (c :: rest)) :
    endsWord c rest = false := by
  cases rest with
  | nil => rfl
  | cons next rest =>
      rw [endsWord]
      rcases oneCase with capitalless | smallless
      · rw [capitalless next (by simp), Bool.false_and]
      · obtain ⟨notSmall, notDigit⟩ := smallless c List.mem_cons_self
        have noneFollows : rest.head?.any isLowercase = false := by
          cases rest with
          | nil => rfl
          | cons other rest => exact (smallless other (by simp)).1
        rw [notSmall, notDigit, noneFollows, Bool.and_false, Bool.or_self, Bool.or_self,
          Bool.and_false]

/-- A piece without separators is read to its end. -/
theorem wordPieces_append_of_oneCase {piece rest : List Char} (oneCase : OneCase (piece ++ rest))
    (solid : ∀ c ∈ piece, isWordSeparator c = false) (current : List Char) :
    wordPieces current (piece ++ rest) = wordPieces (current ++ piece) rest := by
  induction piece generalizing current with
  | nil => rw [List.nil_append, List.append_nil]
  | cons c piece ih =>
      rw [List.forall_mem_cons] at solid
      rw [List.cons_append] at oneCase ⊢
      rw [wordPieces, solid.1, endsWord_of_oneCase oneCase]
      have others := ih (oneCase.of_suffix (List.suffix_cons c _)) solid.2 (current ++ [c])
      rw [List.append_assoc] at others
      exact others

/-- A text of one case is cut at its separators. -/
theorem wordPieces_separated {separator : Char} (separates : isWordSeparator separator = true)
    {first : List Char} {others : List (List Char)}
    (pieces : ∀ piece ∈ first :: others, piece ≠ [] ∧ ∀ c ∈ piece, isWordSeparator c = false)
    (oneCase : OneCase (first ++ others.flatMap (separator :: ·))) :
    wordPieces [] (first ++ others.flatMap (separator :: ·)) = first :: others := by
  induction others generalizing first with
  | nil =>
      obtain ⟨present, solid⟩ := pieces first List.mem_cons_self
      rw [wordPieces_append_of_oneCase oneCase solid, List.nil_append, List.flatMap_nil, wordPieces,
        if_neg (by simpa using present)]
  | cons second others ih =>
      rw [List.forall_mem_cons] at pieces
      obtain ⟨⟨present, solid⟩, later⟩ := pieces
      have read := wordPieces_append_of_oneCase oneCase solid []
      rw [List.flatMap_cons, List.cons_append] at oneCase read ⊢
      have rest := oneCase.of_suffix ((List.suffix_cons separator _).trans (List.suffix_append _ _))
      rw [read, List.nil_append, wordPieces, if_pos separates, if_neg (by simpa using present),
        ih later rest, List.singleton_append]

/-! ## Words that begin with capitals -/

/-- Small letters are read up to the next capital, or to the end. -/
theorem wordPieces_append_of_small {letters rest : List Char} (present : letters ≠ [])
    (small : ∀ c ∈ letters, c.isLower = true) (starts : ∀ c ∈ rest.head?, isUppercase c = true)
    (current : List Char) :
    wordPieces current (letters ++ rest) = (current ++ letters) :: wordPieces [] rest := by
  induction letters generalizing current with
  | nil => contradiction
  | cons c letters ih =>
      rw [List.forall_mem_cons] at small
      obtain ⟨solid, -, lowercase⟩ := small_of_isLower small.1
      rw [List.cons_append, wordPieces, solid, if_neg Bool.false_ne_true]
      cases letters with
      | nil =>
          cases rest with
          | nil => simp [wordPieces, endsWord]
          | cons next rest =>
              have capital := starts next rfl
              rw [List.nil_append, endsWord, capital, lowercase]
              rfl
      | cons next letters =>
          have within := (small_of_isLower (small.2 next List.mem_cons_self)).2.1
          rw [List.cons_append, endsWord, within, Bool.false_and, if_neg Bool.false_ne_true]
          have others := ih (List.cons_ne_nil _ _) small.2 (current ++ [c])
          rw [List.append_assoc] at others
          exact others

/-- Words in capitals and small letters, without a separator. -/
def capitals (words : List (List Char)) : List Char := words.flatMap WordCase.capitalized.apply

/-- A word of two small letters or more. -/
def IsLong (word : List Char) : Prop := 2 ≤ word.length ∧ ∀ c ∈ word, c.isLower = true

/-- A long word has a capital and small letters behind it. -/
theorem IsLong.exists_capitalized {word : List Char} (long : IsLong word) :
    ∃ first rest, word = first :: rest ∧ rest ≠ [] ∧ (∀ c ∈ first :: rest, c.isLower = true) ∧
      WordCase.capitalized.apply word = first.toUpper :: rest := by
  obtain ⟨two, small⟩ := long
  match word, two, small with
  | first :: second :: rest, _, small =>
      exact ⟨first, second :: rest, rfl, List.cons_ne_nil _ _, small,
        WordCase.apply_capitalized small⟩

theorem isUppercase_of_head_capitals {words : List (List Char)}
    (long : ∀ word ∈ words, IsLong word) :
    ∀ c ∈ (capitals words).head?, isUppercase c = true := by
  cases words with
  | nil => intro c member; contradiction
  | cons word words =>
      obtain ⟨first, rest, -, -, small, written⟩ :=
        (long word List.mem_cons_self).exists_capitalized
      rw [capitals, List.flatMap_cons, written]
      rintro _ ⟨⟩
      exact (capital_of_isLower (small first List.mem_cons_self)).2.1

/-- Long words with capitals are cut at the capitals. -/
theorem wordPieces_capitals {words : List (List Char)} (long : ∀ word ∈ words, IsLong word) :
    wordPieces [] (capitals words) = words.map WordCase.capitalized.apply := by
  induction words with
  | nil => rfl
  | cons word words ih =>
      rw [List.forall_mem_cons] at long
      obtain ⟨first, rest, -, present, small, written⟩ := long.1.exists_capitalized
      rw [List.forall_mem_cons] at small
      obtain ⟨solid, -, notSmall, notDigit⟩ := capital_of_isLower small.1
      have inside : endsWord first.toUpper (rest ++ capitals words) = false := by
        cases rest with
        | nil => contradiction
        | cons next rest =>
            have within := (small_of_isLower (small.2 next List.mem_cons_self)).2.1
            rw [List.cons_append, endsWord, within, Bool.false_and]
      rw [List.map_cons, written, capitals, List.flatMap_cons, ← capitals, written,
        List.cons_append, wordPieces, solid, inside, if_neg Bool.false_ne_true,
        if_neg Bool.false_ne_true,
        wordPieces_append_of_small present small.2 (isUppercase_of_head_capitals long.2), ih long.2]
      rfl

/-! ## Joined words -/

namespace CaseRule

variable {rule : CaseRule} {words : List (List Char)}

theorem join_cons_of_separator {separator : Char} (separated : rule.separator = some separator)
    (word : List Char) :
    rule.join (word :: words) =
      rule.first.apply word ++ (words.map rule.rest.apply).flatMap (separator :: ·) := by
  rw [join, joinRest, separated, List.flatMap_map]
  rfl

/-- A character of an identifier is its separator or a character of a word. -/
theorem mem_join {c : Char} (member : c ∈ rule.join words) :
    rule.separator = some c ∨
      ∃ word ∈ words, c ∈ rule.first.apply word ∨ c ∈ rule.rest.apply word := by
  cases words with
  | nil => contradiction
  | cons word words =>
      rw [join, List.mem_append, joinRest, List.mem_flatMap] at member
      rcases member with inFirst | ⟨other, listed, inRest⟩
      · exact .inr ⟨word, List.mem_cons_self, .inl inFirst⟩
      · rw [List.mem_append, Option.mem_toList] at inRest
        rcases inRest with separates | inWord
        · exact .inl separates
        · exact .inr ⟨other, List.mem_cons_of_mem word listed, .inr inWord⟩

/-- Words that are joined with a separator, in letters of one case, are found again. -/
theorem splitWords_join_of_separator {separator : Char}
    (separated : rule.separator = some separator) (separates : isWordSeparator separator = true)
    (small : ∀ word ∈ words, word ≠ [] ∧ ∀ c ∈ word, c.isLower = true)
    (oneCase : OneCase (rule.join words)) : splitWords (rule.join words) = words := by
  cases words with
  | nil => rfl
  | cons word words =>
      rw [join_cons_of_separator separated] at oneCase ⊢
      have solid (case : WordCase) {word : List Char}
          (small : word ≠ [] ∧ ∀ c ∈ word, c.isLower = true) :
          case.apply word ≠ [] ∧ ∀ c ∈ case.apply word, isWordSeparator c = false := by
        obtain ⟨length, letters⟩ := case.apply_of_small small.2
        refine ⟨fun none => small.1 (List.length_eq_zero_iff.mp ?_),
          fun c member => (letters c member).2⟩
        rw [← length, none, List.length_nil]
      rw [List.forall_mem_cons] at small
      have pieces : ∀ piece ∈ rule.first.apply word :: words.map rule.rest.apply,
          piece ≠ [] ∧ ∀ c ∈ piece, isWordSeparator c = false := by
        rw [List.forall_mem_cons, List.forall_mem_map]
        exact ⟨solid rule.first small.1, fun other member => solid rule.rest (small.2 other member)⟩
      rw [splitWords, wordPieces_separated separates pieces oneCase, List.map_cons,
        rule.first.lower_apply small.1.2,
        rule.rest.map_lower_map_apply fun other member => (small.2 other member).2]

/-- Words of small letters that are joined under a convention are found again. -/
theorem splitWords_join_standard (convention : Convention)
    (small : ∀ word ∈ words, word ≠ [] ∧ ∀ c ∈ word, c.isLower = true)
    (long : convention = .camel ∨ convention = .pascal → ∀ word ∈ words, 2 ≤ word.length) :
    splitWords ((standard convention).join words) = words := by
  have capitalless (separator : Char) (notCapital : isUppercase separator = false) :
      OneCase ((⟨some separator, .lower, .lower⟩ : CaseRule).join words) := by
    refine .inl fun c member => ?_
    rcases mem_join member with ⟨⟨⟩⟩ | ⟨word, listed, inWord⟩
    · exact notCapital
    · rw [or_self, WordCase.apply_lower (small word listed).2] at inWord
      exact (small_of_isLower ((small word listed).2 c inWord)).2.1
  cases convention with
  | snake => exact splitWords_join_of_separator rfl (by decide) small (capitalless '_' (by decide))
  | kebab => exact splitWords_join_of_separator rfl (by decide) small (capitalless '-' (by decide))
  | screaming =>
      refine splitWords_join_of_separator rfl (by decide) small (.inr fun c member => ?_)
      rcases mem_join member with ⟨⟨⟩⟩ | ⟨word, listed, inWord⟩
      · decide
      · rw [standard, or_self, WordCase.apply_upper (small word listed).2, List.mem_map] at inWord
        obtain ⟨letter, inWord, rfl⟩ := inWord
        exact (capital_of_isLower ((small word listed).2 letter inWord)).2.2
  | camel =>
      have long : ∀ word ∈ words, IsLong word :=
        fun word member => ⟨long (.inl rfl) word member, (small word member).2⟩
      cases words with
      | nil => rfl
      | cons word words =>
          rw [List.forall_mem_cons] at small long
          have same : Text.lower word = word := WordCase.apply_lower small.1.2
          have joined : (standard .camel).join (word :: words) = word ++ capitals words :=
            congrArg (· ++ capitals words) same
          rw [joined, splitWords, wordPieces_append_of_small small.1.1 small.1.2
            (isUppercase_of_head_capitals long.2), List.nil_append, List.map_cons, same,
            wordPieces_capitals long.2,
            WordCase.capitalized.map_lower_map_apply fun other member => (long.2 other member).2]
  | pascal =>
      have long : ∀ word ∈ words, IsLong word :=
        fun word member => ⟨long (.inr rfl) word member, (small word member).2⟩
      have joined : (standard .pascal).join words = capitals words := by
        cases words <;> rfl
      rw [joined, splitWords, wordPieces_capitals long,
        WordCase.capitalized.map_lower_map_apply fun word member => (long word member).2]

/-- Splitting an identifier undoes joining words of small letters under any convention.  Where
words are joined without a separator, each has two letters or more. -/
theorem splitWords_apply_standard (convention : Convention) (words : List String)
    (small : ∀ word ∈ words, word ≠ "" ∧ word.toList.all Char.isLower = true)
    (long : convention = .camel ∨ convention = .pascal → ∀ word ∈ words, 2 ≤ word.length) :
    (splitWords ((standard convention).apply words).toList).map String.ofList = words := by
  have letters : ∀ word ∈ words.map String.toList, word ≠ [] ∧ ∀ c ∈ word, c.isLower = true := by
    rw [List.forall_mem_map]
    exact fun word member => ⟨mt String.toList_eq_nil_iff.mp (small word member).1,
      List.all_eq_true.mp (small word member).2⟩
  have lengths (joined : convention = .camel ∨ convention = .pascal) :
      ∀ word ∈ words.map String.toList, 2 ≤ word.length := by
    rw [List.forall_mem_map]
    exact long joined
  rw [apply, String.toList_ofList, splitWords_join_standard convention letters lengths,
    List.map_map]
  exact List.map_id'' (fun _ => String.ofList_toList) words

theorem splitWords_apply_pascal :
    (splitWords ((standard .pascal).apply ["ab", "cde", "fg"]).toList).map String.ofList =
      ["ab", "cde", "fg"] :=
  splitWords_apply_standard .pascal ["ab", "cde", "fg"] (by decide) (by decide)

/-- One letter is no word among capitals. -/
example :
    (splitWords ((standard .pascal).apply ["a", "b", "cd"]).toList).map String.ofList =
      ["ab", "cd"] := by
  decide

end CaseRule

end Imprint
