import Imprint.Proofs.Token.Identifier
import Imprint.Proofs.Token.Literal
import Mathlib.Data.List.TakeWhile

/-!
# Comments hold no identifiers

A line comment ends with its line and a block comment at the first closing mark.  What a comment
holds is passed over, whether it looks like an identifier, a literal or another comment.  Main
statement: comments and the literals of escaped values are opaque, so a text that begins with one
of them has the identifiers of the text behind it.
-/

namespace Imprint

open Text

variable {lexicon : Lexicon} {hyphenated : Bool}

/-- The comment at the head of a text is passed over. -/
theorem tokens_comment {text : List Char} {length : Nat}
    (commented : commentLength lexicon text = some length) (positive : 0 < length) :
    tokens lexicon hyphenated text = tokens lexicon hyphenated (text.drop length) := by
  cases text with
  | nil => rw [List.drop_nil]
  | cons c rest =>
      have found : lexeme lexicon hyphenated c rest = ⟨length, none⟩ := by
        rw [lexeme, commented]
      exact tokens_of_lexeme found positive

/-! ## The ends of comments -/

/-- A text without line breaks is a line or the beginning of one. -/
theorem takeWhile_of_unbroken {text : List Char} (noBreak : '\n' ∉ text) :
    text.takeWhile (· != '\n') = text := by
  rw [List.takeWhile_eq_self_iff]
  intro c member
  rw [bne_iff_ne]
  rintro rfl
  exact noBreak member

/-- A line goes on to its break. -/
theorem takeWhile_append_lineBreak {text : List Char} (noBreak : '\n' ∉ text)
    (rest : List Char) : (text ++ '\n' :: rest).takeWhile (· != '\n') = text := by
  have within := List.takeWhile_eq_self_iff.mp (takeWhile_of_unbroken noBreak)
  rw [List.takeWhile_append_of_pos within, List.takeWhile_cons_of_neg (by decide), List.append_nil]

/-- A text without a marker lies before the marker as a whole. -/
theorem distanceTo_of_absent {marker text : List Char} (absent : ¬ marker <:+: text) :
    distanceTo marker text = text.length := by
  induction text with
  | nil => rfl
  | cons c text ih =>
      have later : ¬ marker <:+: text := fun within =>
        absent (within.trans (List.suffix_cons c text).isInfix)
      have apart : ¬ (!marker.isEmpty && marker.isPrefixOf (c :: text)) = true := by
        rw [Bool.and_eq_true, List.isPrefixOf_iff_prefix]
        rintro ⟨-, stands⟩
        exact absent stands.isInfix
      rw [distanceTo, if_neg apart, ih later, List.length_cons]

/-- A mark of two different characters is found behind a text that does not hold it: no mark can
begin with the end of the text. -/
theorem distanceTo_append {first second : Char} (different : first ≠ second)
    {text : List Char} (absent : ¬ [first, second] <:+: text) (rest : List Char) :
    distanceTo [first, second] (text ++ first :: second :: rest) = text.length := by
  induction text with
  | nil => simp [distanceTo]
  | cons c text ih =>
      have later : ¬ [first, second] <:+: text := fun within =>
        absent (within.trans (List.suffix_cons c text).isInfix)
      have apart : ¬ (!([first, second].isEmpty) &&
          [first, second].isPrefixOf (c :: (text ++ first :: second :: rest))) = true := by
        rw [Bool.and_eq_true, List.isPrefixOf_iff_prefix, List.cons_prefix_cons]
        rintro ⟨-, rfl, stands⟩
        -- A mark that begins with the last character of the text goes on with its own first one.
        cases text with
        | nil => exact different (List.cons_prefix_cons.mp stands).1.symm
        | cons next text =>
            obtain ⟨rfl, -⟩ := List.cons_prefix_cons.mp stands
            exact absent ⟨[], text, rfl⟩
      rw [List.cons_append, distanceTo, if_neg apart, ih later, List.length_cons]

/-- A line comment goes on to the end of its line. -/
theorem commentLength_lineComment {marker : String} (listed : marker ∈ lexicon.lineComments)
    (present : marker.toList ≠ []) (text : List Char) :
    commentLength lexicon (marker.toList ++ text) =
      some ((marker.toList ++ text).takeWhile (· != '\n')).length := by
  have stands : (lexicon.lineComments.any fun other =>
      !other.isEmpty && other.toList.isPrefixOf (marker.toList ++ text)) = true := by
    refine List.any_eq_true.mpr ⟨marker, listed, ?_⟩
    rw [Bool.and_eq_true, Bool.not_eq_true', ← Bool.not_eq_true, String.isEmpty_iff,
      ← String.toList_eq_nil_iff, List.isPrefixOf_iff_prefix]
    exact ⟨present, List.prefix_append _ _⟩
  rw [commentLength, if_pos stands]

/-! ## The comments of a style -/

namespace LiteralStyle

variable {style : LiteralStyle}

/-- The markers of line comments are not empty and hold no line break. -/
theorem lineComment_inert {marker : String} (listed : marker ∈ style.lexicon.lineComments) :
    marker.toList ≠ [] ∧ '\n' ∉ marker.toList := by
  have inert : ∀ style ∈ all, ∀ marker ∈ style.lexicon.lineComments,
      marker.toList ≠ [] ∧ '\n' ∉ marker.toList := by
    decide
  exact inert style style.mem_all marker listed

/-- Every block comment has the same two marks. -/
theorem toList_of_blockComment {opening closing : String}
    (marks : style.lexicon.blockComment = some (opening, closing)) :
    opening.toList = ['/', '*'] ∧ closing.toList = ['*', '/'] := by
  cases style <;> cases marks <;> exact ⟨rfl, rfl⟩

theorem commentLength_blockComment {opening closing : String}
    (marks : style.lexicon.blockComment = some (opening, closing)) (text : List Char) :
    commentLength style.lexicon (opening.toList ++ text) =
      some (opening.toList.length + distanceTo closing.toList text + closing.toList.length) := by
  cases style <;> cases marks <;> rfl

/-- A line comment hides the rest of its line. -/
theorem tokens_lineComment {marker : String} (listed : marker ∈ style.lexicon.lineComments)
    {body : List Char} (noBreak : '\n' ∉ body) (rest : List Char) :
    tokens style.lexicon hyphenated (marker.toList ++ body ++ '\n' :: rest) =
        tokens style.lexicon hyphenated rest ∧
      tokens style.lexicon hyphenated (marker.toList ++ body) = [] := by
  obtain ⟨present, unbroken⟩ := lineComment_inert listed
  have whole : '\n' ∉ marker.toList ++ body := by
    rw [List.mem_append, not_or]
    exact ⟨unbroken, noBreak⟩
  have positive : 0 < (marker.toList ++ body).length := by
    rw [List.length_append]
    exact Nat.add_pos_left (List.length_pos_iff.mpr present) _
  constructor
  · have commented := commentLength_lineComment listed present (body ++ '\n' :: rest)
    rw [← List.append_assoc, takeWhile_append_lineBreak whole] at commented
    have unopened : '\n' ∉ '\\' :: style.lexicon.openers := by
      cases style <;> decide
    rw [tokens_comment commented positive, List.drop_left,
      tokens_cons_of_inert unopened (by decide)]
  · have commented := commentLength_lineComment listed present body
    rw [takeWhile_of_unbroken whole] at commented
    rw [tokens_comment commented positive, List.drop_length]
    rfl

/-- A block comment hides everything up to the first closing mark behind its opening mark, and
the whole text if there is none. -/
theorem tokens_blockComment {opening closing : String}
    (marks : style.lexicon.blockComment = some (opening, closing)) {body : List Char}
    (unclosed : ¬ closing.toList <:+: body) (rest : List Char) :
    tokens style.lexicon hyphenated (opening.toList ++ body ++ closing.toList ++ rest) =
        tokens style.lexicon hyphenated rest ∧
      tokens style.lexicon hyphenated (opening.toList ++ body) = [] := by
  have commented (text : List Char) := commentLength_blockComment marks text
  obtain ⟨opens, closes⟩ := toList_of_blockComment marks
  simp only [opens, closes] at commented unclosed ⊢
  constructor
  · have whole := commented (body ++ '*' :: '/' :: rest)
    rw [distanceTo_append (by decide) unclosed] at whole
    have text : ['/', '*'] ++ body ++ ['*', '/'] ++ rest =
        ['/', '*'] ++ (body ++ '*' :: '/' :: rest) := by simp
    rw [text, tokens_comment whole (by simp)]
    congr 1
    simp [List.drop_append]
  · have whole := commented body
    rw [distanceTo_of_absent unclosed] at whole
    rw [tokens_comment whole (by simp), List.drop_eq_nil_of_le (by simp)]
    rfl

end LiteralStyle

/-- Comments and the literals of escaped values are opaque: whatever they hold, the identifiers
of a text that begins with one of them are those of the text behind it.  A comment that does not
end hides all there is. -/
theorem tokens_opaque (style : LiteralStyle) (hyphenated : Bool) (rest : List Char) :
    (∀ value : String, firstInk rest ≠ some ':' →
      tokens style.lexicon hyphenated
          (style.quote :: ((style.escape value).toList ++ style.quote :: rest)) =
        tokens style.lexicon hyphenated rest) ∧
    (∀ marker ∈ style.lexicon.lineComments, ∀ body, '\n' ∉ body →
      tokens style.lexicon hyphenated (marker.toList ++ body ++ '\n' :: rest) =
          tokens style.lexicon hyphenated rest ∧
        tokens style.lexicon hyphenated (marker.toList ++ body) = []) ∧
    ∀ opening closing, style.lexicon.blockComment = some (opening, closing) →
      ∀ body, ¬ closing.toList <:+: body →
        tokens style.lexicon hyphenated (opening.toList ++ body ++ closing.toList ++ rest) =
            tokens style.lexicon hyphenated rest ∧
          tokens style.lexicon hyphenated (opening.toList ++ body) = [] := by
  refine ⟨?_, ?_, ?_⟩
  · intro value noKey
    rw [LiteralStyle.escape, String.toList_ofList]
    exact style.tokens_escapeChars value.toList noKey
  · intro marker listed body noBreak
    exact LiteralStyle.tokens_lineComment listed noBreak rest
  · intro opening closing marks body unclosed
    exact LiteralStyle.tokens_blockComment marks unclosed rest

/-- A value that closes comments, a line comment that opens a literal, and a block comment whose
marks overlap, in front of an identifier. -/
theorem tokens_opaque_c_misleading :
    firstInk " version".toList ≠ some ':' ∧
      "//" ∈ LiteralStyle.c.lexicon.lineComments ∧ '\n' ∉ " \" commit_date:".toList ∧
      LiteralStyle.c.lexicon.blockComment = some ("/*", "*/") ∧
      ¬ "*/".toList <:+: "/ // \"build_date*".toList ∧
      tokens LiteralStyle.c.lexicon false
          ('"' :: ((LiteralStyle.c.escape "*/ commit_hash \"\\").toList ++ '"' ::
            " version".toList)) =
        tokens LiteralStyle.c.lexicon false " version".toList ∧
      tokens LiteralStyle.c.lexicon false
          ("//".toList ++ " \" commit_date:".toList ++ '\n' :: " version".toList) =
        tokens LiteralStyle.c.lexicon false " version".toList ∧
      tokens LiteralStyle.c.lexicon false
          ("/*".toList ++ "/ // \"build_date*".toList ++ "*/".toList ++ " version".toList) =
        tokens LiteralStyle.c.lexicon false " version".toList := by
  have noKey : firstInk " version".toList ≠ some ':' := by decide
  have listed : "//" ∈ LiteralStyle.c.lexicon.lineComments := by decide
  have noBreak : '\n' ∉ " \" commit_date:".toList := by decide
  have marks : LiteralStyle.c.lexicon.blockComment = some ("/*", "*/") := rfl
  have unclosed : ¬ "*/".toList <:+: "/ // \"build_date*".toList := by decide +kernel
  obtain ⟨literals, lines, blocks⟩ := tokens_opaque .c false " version".toList
  exact ⟨noKey, listed, noBreak, marks, unclosed, literals _ noKey, (lines _ listed _ noBreak).1,
    (blocks _ _ marks _ unclosed).1⟩

end Imprint
