import Imprint.Token

/-!
# Reading a text piece by piece

What stands at the head of a text may depend on how the text goes on: a slash may open a comment,
and an identifier may go on.  A text is settled if nothing behind it changes how it is read, so
the identifiers of a settled text and what follows are those of the one and then those of the
other.
-/

namespace Imprint

open Text

variable {lexicon : Lexicon} {hyphenated : Bool}

/-! ## Heads -/

/-- Whether a marker stands at the head of a text or cannot come to stand there. -/
def markerSettled (marker text : List Char) : Bool :=
  marker.isPrefixOf text || !text.isPrefixOf marker

theorem isPrefixOf_append_of_settled {marker text : List Char}
    (settled : markerSettled marker text = true) (more : List Char) :
    marker.isPrefixOf (text ++ more) = marker.isPrefixOf text := by
  rw [markerSettled, Bool.or_eq_true, Bool.not_eq_true', ← Bool.not_eq_true,
    List.isPrefixOf_iff_prefix, List.isPrefixOf_iff_prefix] at settled
  rw [Bool.eq_iff_iff, List.isPrefixOf_iff_prefix, List.isPrefixOf_iff_prefix]
  constructor
  · intro stands
    rcases settled with within | apart
    · exact within
    · rcases List.prefix_or_prefix_of_prefix stands (List.prefix_append text more) with
        within | around
      · exact within
      · exact absurd around apart
  · intro within
    exact within.trans (List.prefix_append text more)

/-- The first character of a text that is not white space. -/
def firstInk (text : List Char) : Option Char := (trimStart text).head?

theorem trimStart_append_of_ne_nil {text : List Char} (ink : trimStart text ≠ [])
    (more : List Char) : trimStart (text ++ more) = trimStart text ++ more := by
  induction text with
  | nil => exact absurd rfl ink
  | cons c text ih =>
      rw [trimStart_cons] at ink ⊢
      rw [List.cons_append, trimStart_cons]
      by_cases blank : isBlank c = true
      · rw [if_pos blank] at ink ⊢
        rw [if_pos blank]
        exact ih ink
      · rw [if_neg blank, if_neg blank, List.cons_append]

theorem firstInk_append_of_isSome {text : List Char} (ink : (firstInk text).isSome = true)
    (more : List Char) : firstInk (text ++ more) = firstInk text := by
  have inked : trimStart text ≠ [] := by
    intro blank
    rw [firstInk, blank] at ink
    exact absurd ink (by decide)
  rw [firstInk, trimStart_append_of_ne_nil inked, List.head?_append]
  exact Option.or_of_isSome ink

/-! ## Lexemes -/

/-- Whether the comment or its absence at the head of a text is certain.  A comment must be one
that ends with its line. -/
def commentSettled (lexicon : Lexicon) (text : List Char) : Bool :=
  (lexicon.lineComments.all fun marker => markerSettled marker.toList text) &&
    (lexicon.blockComment.all fun marks =>
      markerSettled marks.1.toList text && !marks.1.toList.isPrefixOf text) &&
    ((commentLength lexicon text).isNone || text.contains '\n')

/-- Whether the lexeme at the head of a text ends within the text, and whether a literal that
could be an object key is known to be one or not. -/
def lexemeSettled (lexicon : Lexicon) (hyphenated : Bool) (c : Char) (rest : List Char) : Bool :=
  commentSettled lexicon (c :: rest) &&
    if (commentLength lexicon (c :: rest)).isSome then true
    else if lexicon.quotes.contains c then
      let body := literalBody c lexicon.escapesInQuotes rest
      decide (body.length < rest.length) && (firstInk (rest.drop (body.length + 1))).isSome
    else if c == '\\' then true
    else if startsIdentifier c then
      ((c :: rest).drop (identifierRun hyphenated (c :: rest)).length).head?.any (· != '-')
    else true

theorem takeWhile_append_of_contains {text : List Char} (ends : text.contains '\n' = true)
    (more : List Char) :
    (text ++ more).takeWhile (· != '\n') = text.takeWhile (· != '\n') := by
  induction text with
  | nil => exact absurd ends (by decide)
  | cons c text ih =>
      rw [List.cons_append, List.takeWhile_cons, List.takeWhile_cons]
      by_cases feed : c = '\n'
      · rw [if_neg (by simpa using feed), if_neg (by simpa using feed)]
      · rw [List.contains_cons, Bool.or_eq_true] at ends
        rcases ends with now | later
        · exact absurd (beq_iff_eq.mp now).symm feed
        · rw [ih later]

theorem commentLength_append {text : List Char} (settled : commentSettled lexicon text = true)
    (more : List Char) : commentLength lexicon (text ++ more) = commentLength lexicon text := by
  rw [commentSettled, Bool.and_eq_true, Bool.and_eq_true, List.all_eq_true] at settled
  obtain ⟨⟨lines, block⟩, ends⟩ := settled
  have opens :
      (lexicon.lineComments.any fun marker =>
          !marker.isEmpty && marker.toList.isPrefixOf (text ++ more)) =
        lexicon.lineComments.any fun marker =>
          !marker.isEmpty && marker.toList.isPrefixOf text := by
    rw [Bool.eq_iff_iff, List.any_eq_true, List.any_eq_true]
    refine exists_congr fun marker => and_congr_right fun listed => ?_
    rw [isPrefixOf_append_of_settled (lines marker listed)]
  rw [commentLength, commentLength, opens]
  split
  · next commented =>
      rw [commentLength, if_pos commented, Option.isNone_some, Bool.false_or] at ends
      rw [takeWhile_append_of_contains ends]
  · cases marks : lexicon.blockComment with
    | none => rfl
    | some marks' =>
        rw [marks, Option.all_some, Bool.and_eq_true, Bool.not_eq_true'] at block
        simp only [isPrefixOf_append_of_settled block.1, block.2, Bool.and_false,
          Bool.false_eq_true, if_false]

theorem literalBody_quote (quote : Char) (escapes : Bool) (rest : List Char) :
    literalBody quote escapes (quote :: rest) = [] := by
  cases rest with
  | nil => rw [literalBody, if_pos (beq_self_eq_true quote)]
  | cons next rest => rw [literalBody, if_pos (beq_self_eq_true quote)]

theorem literalBody_append {quote : Char} {escapes : Bool} {text : List Char}
    (closed : (literalBody quote escapes text).length < text.length) (more : List Char) :
    literalBody quote escapes (text ++ more) = literalBody quote escapes text := by
  induction text using literalBody.induct quote escapes with
  | case1 => exact absurd closed (Nat.lt_irrefl 0)
  | case2 c ends =>
      obtain rfl := beq_iff_eq.mp ends
      rw [List.cons_append, literalBody_quote, literalBody_quote]
  | case3 c goesOn =>
      rw [literalBody, if_neg goesOn] at closed
      exact absurd closed (Nat.lt_irrefl 1)
  | case4 c next rest ends =>
      obtain rfl := beq_iff_eq.mp ends
      rw [List.cons_append, literalBody_quote, literalBody_quote]
  | case5 c next rest goesOn escaped ih =>
      rw [literalBody, if_neg goesOn, if_pos escaped] at closed
      rw [List.cons_append, List.cons_append, literalBody, if_neg goesOn, if_pos escaped,
        literalBody, if_neg goesOn, if_pos escaped, ih]
      exact Nat.lt_of_add_lt_add_right (n := 2) closed
  | case6 c next rest goesOn single ih =>
      rw [literalBody, if_neg goesOn, if_neg single] at closed
      rw [List.cons_append, List.cons_append, literalBody, if_neg goesOn, if_neg single,
        ← List.cons_append, literalBody, if_neg goesOn, if_neg single, ih]
      exact Nat.lt_of_add_lt_add_right closed

theorem identifierRun_append {text : List Char}
    (ends : (text.drop (identifierRun hyphenated text).length).head?.any (· != '-') = true)
    (more : List Char) :
    identifierRun hyphenated (text ++ more) = identifierRun hyphenated text := by
  induction text using identifierRun.induct hyphenated with
  | case1 => exact absurd ends Bool.false_ne_true
  | case2 c rest goesOn ih =>
      rw [identifierRun, if_pos goesOn, List.length_cons, List.drop_succ_cons] at ends
      have next : (rest ++ more).head? = rest.head? := by
        cases rest with
        | nil => exact absurd ends Bool.false_ne_true
        | cons first rest => rfl
      rw [List.cons_append, identifierRun, next, if_pos goesOn, ih ends, identifierRun,
        if_pos goesOn]
  | case3 c rest stops =>
      rw [identifierRun, if_neg stops] at ends
      have noHyphen : (c == '-') = false := by simpa using ends
      rw [noHyphen, Bool.and_false, Bool.false_and] at stops
      rw [List.cons_append, identifierRun, identifierRun, noHyphen, Bool.and_false,
        Bool.false_and, Bool.false_and, if_neg stops, if_neg stops]

theorem literalLexeme_append {quote : Char} {text : List Char}
    (closed : (literalBody quote lexicon.escapesInQuotes text).length < text.length)
    (known : (firstInk
      (text.drop ((literalBody quote lexicon.escapesInQuotes text).length + 1))).isSome = true)
    (more : List Char) :
    literalLexeme lexicon quote (text ++ more) = literalLexeme lexicon quote text := by
  have next := firstInk_append_of_isSome known more
  rw [← List.drop_append_of_le_length closed] at next
  rw [firstInk, firstInk] at next
  simp only [literalLexeme, literalBody_append closed, next]

/-- A settled lexeme is the same whatever follows the text. -/
theorem lexeme_append {c : Char} {rest : List Char}
    (settled : lexemeSettled lexicon hyphenated c rest = true) (more : List Char) :
    lexeme lexicon hyphenated c (rest ++ more) = lexeme lexicon hyphenated c rest := by
  rw [lexemeSettled, Bool.and_eq_true] at settled
  obtain ⟨comment, settled⟩ := settled
  have sameComment := commentLength_append comment more
  rw [List.cons_append] at sameComment
  rw [lexeme, lexeme, sameComment]
  cases commented : commentLength lexicon (c :: rest) with
  | some length => rfl
  | none =>
      rw [commented, Option.isSome_none, if_neg Bool.false_ne_true] at settled
      by_cases quote : lexicon.quotes.contains c = true
      · rw [if_pos quote, Bool.and_eq_true, decide_eq_true_eq] at settled
        simp only [if_pos quote, literalLexeme_append settled.1 settled.2]
      · rw [if_neg quote] at settled
        by_cases backslash : (c == '\\') = true
        · simp only [if_neg quote, if_pos backslash]
        · rw [if_neg backslash] at settled
          by_cases starts : startsIdentifier c = true
          · rw [if_pos starts] at settled
            have sameRun := identifierRun_append settled more
            rw [List.cons_append] at sameRun
            simp only [if_neg quote, if_neg backslash, if_pos starts, sameRun]
          · simp only [if_neg quote, if_neg backslash, if_neg starts]

/-! ## Texts -/

/-- Whether a text is read the same way whatever follows it, from a number of characters on. -/
def settledFrom (lexicon : Lexicon) (hyphenated : Bool) : Nat → List Char → Bool
  | 0, [] => true
  | _ + 1, [] => false
  | skip + 1, _ :: rest => settledFrom lexicon hyphenated skip rest
  | 0, c :: rest =>
      lexemeSettled lexicon hyphenated c rest &&
        settledFrom lexicon hyphenated ((lexeme lexicon hyphenated c rest).length - 1) rest

/-- The identifiers of a settled text and what follows are those of the one and then those of the
other. -/
theorem tokensFrom_append {skip : Nat} {text : List Char}
    (settled : settledFrom lexicon hyphenated skip text = true) (more : List Char) :
    tokensFrom lexicon hyphenated skip (text ++ more) =
      tokensFrom lexicon hyphenated skip text ++ tokens lexicon hyphenated more := by
  induction text generalizing skip with
  | nil =>
      cases skip with
      | zero => rw [tokensFrom, List.nil_append, List.nil_append, tokens]
      | succ skip => exact absurd settled Bool.false_ne_true
  | cons c text ih =>
      cases skip with
      | succ skip =>
          rw [List.cons_append, tokensFrom, tokensFrom]
          exact ih settled
      | zero =>
          rw [settledFrom, Bool.and_eq_true] at settled
          simp only [List.cons_append, tokensFrom, lexeme_append settled.1, ih settled.2,
            List.append_assoc]

theorem tokens_append {text : List Char}
    (settled : settledFrom lexicon hyphenated 0 text = true) (more : List Char) :
    tokens lexicon hyphenated (text ++ more) =
      tokens lexicon hyphenated text ++ tokens lexicon hyphenated more :=
  tokensFrom_append settled more

/-- Skipping characters is dropping them. -/
theorem tokensFrom_eq_tokens_drop (skip : Nat) (text : List Char) :
    tokensFrom lexicon hyphenated skip text = tokens lexicon hyphenated (text.drop skip) := by
  induction text generalizing skip with
  | nil => rw [List.drop_nil, tokens, tokensFrom, tokensFrom]
  | cons c text ih =>
      cases skip with
      | zero => rfl
      | succ skip => rw [tokensFrom, List.drop_succ_cons, ih]

/-- The identifiers of a text are that of its first lexeme and those of the text behind it. -/
theorem tokens_of_lexeme {c : Char} {rest : List Char} {length : Nat} {token : Option (List Char)}
    (found : lexeme lexicon hyphenated c rest = ⟨length, token⟩) (present : 0 < length) :
    tokens lexicon hyphenated (c :: rest) =
      token.toList ++ tokens lexicon hyphenated ((c :: rest).drop length) := by
  obtain ⟨more, rfl⟩ := Nat.exists_eq_add_one.mpr present
  rw [tokens, tokensFrom, found, List.drop_succ_cons, ← tokensFrom_eq_tokens_drop]
  rfl

end Imprint
