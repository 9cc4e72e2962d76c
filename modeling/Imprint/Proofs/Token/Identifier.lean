import Imprint.Proofs.Token.Settled
import Imprint.Template

/-!
# Identifiers that stay in one piece

A text that is an identifier in some language need not be one identifier of the text's own
language: it is cut at hyphens that do not join.  Main statement: an identifier is read as itself
exactly if all its hyphens join.
-/

namespace Imprint

open Text

variable {lexicon : Lexicon} {hyphenated : Bool}

/-! ## Hyphens -/

/-- Whether every hyphen of a text joins what stands around it: identifiers are hyphenated, and a
letter or digit follows. -/
def HyphensJoin (hyphenated : Bool) (text : List Char) : Prop :=
  ∀ before after, text = before ++ '-' :: after →
    hyphenated = true ∧ after.head?.any isAlphanumeric = true

theorem hyphensJoin_of_not_mem {text : List Char} (none : '-' ∉ text) :
    HyphensJoin hyphenated text := by
  rintro before after rfl
  exact absurd (List.mem_append_right before List.mem_cons_self) none

theorem hyphensJoin_cons {c : Char} {rest : List Char} :
    HyphensJoin hyphenated (c :: rest) ↔
      (c = '-' → hyphenated = true ∧ rest.head?.any isAlphanumeric = true) ∧
        HyphensJoin hyphenated rest := by
  constructor
  · intro joins
    refine ⟨?_, fun before after split => joins (c :: before) after ?_⟩
    · rintro rfl
      exact joins [] rest rfl
    · rw [split, List.cons_append]
  · rintro ⟨here, later⟩ before after split
    cases before with
    | nil =>
        obtain ⟨rfl, rfl⟩ := List.cons.inj split
        exact here rfl
    | cons first before => exact later before after (List.cons.inj split).2

/-- The characters of identifiers in any language. -/
def isIdentifierCharacter (c : Char) : Bool := isAlphanumeric c || c == '_' || c == '-'

theorem isIdentifier_cons (c : Char) (rest : List Char) :
    isIdentifier (c :: rest) = (startsIdentifier c && rest.all isIdentifierCharacter) :=
  rfl

/-- What an identifier begins with may also stand inside it. -/
theorem isAlphanumeric_of_startsIdentifier {c : Char} (starts : startsIdentifier c = true) :
    (isAlphanumeric c || c == '_') = true := by
  rw [startsIdentifier] at starts
  rcases Bool.or_eq_true_iff.mp starts with letter | underscore
  · rw [isAlphanumeric, letter, Bool.true_or, Bool.true_or]
  · rw [underscore, Bool.or_true]

/-- A hyphen is neither a letter nor a digit. -/
theorem isAlphanumeric_hyphen : isAlphanumeric '-' = false := by
  decide +kernel

/-- A run of identifier characters goes on to the end if all hyphens join. -/
theorem identifierRun_eq_self_iff {text : List Char}
    (characters : text.all isIdentifierCharacter = true) :
    identifierRun hyphenated text = text ↔ HyphensJoin hyphenated text := by
  induction text with
  | nil => exact iff_of_true rfl (hyphensJoin_of_not_mem List.not_mem_nil)
  | cons c rest ih =>
      rw [List.all_cons, Bool.and_eq_true] at characters
      obtain ⟨character, others⟩ := characters
      rw [hyphensJoin_cons, ← ih others, identifierRun]
      by_cases hyphen : c = '-'
      · subst hyphen
        simp only [isAlphanumeric_hyphen, beq_self_eq_true, Bool.and_true, Bool.false_or]
        by_cases joins : (hyphenated && rest.head?.any isAlphanumeric) = true
        · rw [if_pos (by simpa using joins)]
          simpa using fun _ => joins
        · rw [if_neg (by simpa using joins)]
          simpa using fun on letter => absurd letter (by simpa [on] using joins)
      · have goesOn : (isAlphanumeric c || c == '_') = true := by
          simpa [isIdentifierCharacter, hyphen] using character
        rw [goesOn, Bool.true_or, if_pos rfl, List.cons_inj_right]
        exact (and_iff_right fun here => absurd here hyphen).symm

/-! ## Heads -/

/-- The characters that a comment or a literal can begin with. -/
def Lexicon.openers (lexicon : Lexicon) : List Char :=
  lexicon.quotes ++
    (lexicon.lineComments ++ lexicon.blockComment.toList.map Prod.fst).filterMap
      fun marker => marker.toList.head?

theorem isPrefixOf_eq_false_of_unopened {marker : String} {c : Char} {rest : List Char}
    (unopened : marker.toList.head? ≠ some c) :
    (!marker.isEmpty && marker.toList.isPrefixOf (c :: rest)) = false := by
  cases written : marker.toList with
  | nil =>
      rw [String.toList_eq_nil_iff.mp written]
      rfl
  | cons first more =>
      have different : first ≠ c := by
        rintro rfl
        rw [written] at unopened
        exact unopened rfl
      rw [List.isPrefixOf, beq_false_of_ne different, Bool.false_and, Bool.and_false]

theorem commentLength_eq_none {c : Char} (unopened : c ∉ lexicon.openers) (rest : List Char) :
    commentLength lexicon (c :: rest) = none := by
  have apart {marker : String}
      (listed : marker ∈ lexicon.lineComments ++ lexicon.blockComment.toList.map Prod.fst) :
      marker.toList.head? ≠ some c := fun opens =>
    unopened (List.mem_append_right _ (List.mem_filterMap.mpr ⟨marker, listed, opens⟩))
  have noLine : ¬ (lexicon.lineComments.any fun marker =>
      !marker.isEmpty && marker.toList.isPrefixOf (c :: rest)) = true := by
    rw [List.any_eq_true]
    rintro ⟨marker, listed, stands⟩
    rw [isPrefixOf_eq_false_of_unopened (apart (List.mem_append_left _ listed))] at stands
    contradiction
  rw [commentLength, if_neg noLine]
  cases marks : lexicon.blockComment with
  | none => rfl
  | some found =>
      have listed : found.1 ∈ lexicon.blockComment.toList.map Prod.fst := by
        rw [marks]
        exact List.mem_cons_self
      dsimp only
      rw [isPrefixOf_eq_false_of_unopened (apart (List.mem_append_right _ listed)),
        if_neg Bool.false_ne_true]

/-- A character that begins nothing is passed over. -/
theorem tokens_cons_of_inert {c : Char} (unopened : c ∉ '\\' :: lexicon.openers)
    (noStart : startsIdentifier c = false) (rest : List Char) :
    tokens lexicon hyphenated (c :: rest) = tokens lexicon hyphenated rest := by
  rw [List.mem_cons, not_or] at unopened
  obtain ⟨noEscape, noOpener⟩ := unopened
  have noQuote : ¬ lexicon.quotes.contains c = true := fun quote =>
    noOpener (List.mem_append_left _ (List.contains_iff_mem.mp quote))
  have found : lexeme lexicon hyphenated c rest = ⟨1, none⟩ := by
    rw [lexeme, commentLength_eq_none noOpener]
    dsimp only
    rw [if_neg noQuote, if_neg (by simpa using noEscape), if_neg (by simpa using noStart)]
  exact tokens_of_lexeme found Nat.one_pos

/-- No comment and no literal begins like an identifier, and neither does an escape. -/
theorem startsIdentifier_opener (style : LiteralStyle) {c : Char}
    (opens : c ∈ '\\' :: style.lexicon.openers) : startsIdentifier c = false := by
  have none : ∀ style ∈ LiteralStyle.all,
      ('\\' :: style.lexicon.openers).all (fun c => !startsIdentifier c) = true := by
    decide +kernel
  have starts := List.all_eq_true.mp (none style style.mem_all) c opens
  exact Bool.not_eq_true' _ ▸ starts

namespace LiteralStyle

variable {style : LiteralStyle} {text : List Char}

/-- Where an identifier begins it is read as far as it goes. -/
theorem tokens_of_startsIdentifier {c : Char} (starts : startsIdentifier c = true)
    (rest : List Char) :
    tokens style.lexicon hyphenated (c :: rest) =
      identifierRun hyphenated (c :: rest) ::
        tokens style.lexicon hyphenated
          ((c :: rest).drop (identifierRun hyphenated (c :: rest)).length) := by
  have unopened : c ∉ '\\' :: style.lexicon.openers := by
    intro opens
    rw [startsIdentifier_opener style opens] at starts
    contradiction
  rw [List.mem_cons, not_or] at unopened
  obtain ⟨noEscape, noOpener⟩ := unopened
  have noQuote : ¬ style.lexicon.quotes.contains c = true := fun quote =>
    noOpener (List.mem_append_left _ (List.contains_iff_mem.mp quote))
  have found : lexeme style.lexicon hyphenated c rest =
      ⟨(identifierRun hyphenated (c :: rest)).length,
        some (identifierRun hyphenated (c :: rest))⟩ := by
    rw [lexeme, commentLength_eq_none noOpener]
    dsimp only
    rw [if_neg noQuote, if_neg (by simpa using noEscape), if_pos starts]
  have goesOn : (isAlphanumeric c || c == '_' ||
      (hyphenated && c == '-' && rest.head?.any isAlphanumeric)) = true := by
    rw [isAlphanumeric_of_startsIdentifier starts, Bool.true_or]
  have present : 0 < (identifierRun hyphenated (c :: rest)).length := by
    rw [identifierRun, if_pos goesOn]
    exact Nat.succ_pos _
  exact tokens_of_lexeme found present

/-- An identifier is read as itself exactly if all its hyphens join. -/
theorem tokens_eq_singleton_iff (style : LiteralStyle) (identifier : isIdentifier text = true) :
    tokens style.lexicon hyphenated text = [text] ↔ HyphensJoin hyphenated text := by
  cases text with
  | nil => contradiction
  | cons c rest =>
      rw [isIdentifier_cons, Bool.and_eq_true] at identifier
      obtain ⟨starts, others⟩ := identifier
      have characters : (c :: rest).all isIdentifierCharacter = true := by
        rw [List.all_cons, others, Bool.and_true, isIdentifierCharacter,
          isAlphanumeric_of_startsIdentifier starts, Bool.true_or]
      rw [← identifierRun_eq_self_iff characters, tokens_of_startsIdentifier starts]
      constructor
      · intro whole
        exact (List.cons.inj whole).1
      · intro whole
        rw [whole, List.drop_length]
        rfl

end LiteralStyle

end Imprint
