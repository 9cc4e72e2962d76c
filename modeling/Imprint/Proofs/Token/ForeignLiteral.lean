import Imprint.Proofs.Token.Identifier
import Imprint.Proofs.Token.Literal
import Mathlib.Algebra.Ring.Parity
import Mathlib.Data.List.DropRight
import Mathlib.Data.List.Induction

/-!
# Literals that are not written by escaping

A checked text may hold literals of its language that escaping never writes.  A lexicon has one
rule for the inside of all its literals, so a backslash escapes in a raw literal too; and where a
single quote opens no literal, the character behind it is read as it stands.  Main statement: which
of these literals are passed over, and where reading goes on behind the others.
-/

namespace Imprint

open Text

variable {lexicon : Lexicon} {hyphenated : Bool} {quote : Char}

/-! ## Backslashes in front of a quote -/

/-- The number of backslashes that a text ends with. -/
def trailingBackslashes (text : List Char) : Nat := (text.rtakeWhile (· == '\\')).length

/-- A text is cut before the backslashes that it ends with. -/
theorem exists_eq_append_trailing (text : List Char) :
    ∃ front, text = front ++ List.replicate (trailingBackslashes text) '\\' ∧
      front.getLast? ≠ some '\\' := by
  refine ⟨text.rdropWhile (· == '\\'), ?_, ?_⟩
  · have backslashes : text.rtakeWhile (· == '\\') =
        List.replicate (trailingBackslashes text) '\\' :=
      List.eq_replicate_of_mem fun c member =>
        beq_iff_eq.mp (List.mem_rtakeWhile_imp (p := (· == '\\')) member)
    rw [← backslashes, List.rdropWhile_append_rtakeWhile]
  · intro last
    obtain ⟨present, same⟩ := List.mem_getLast?_eq_getLast last
    have other := List.rdropWhile_last_not _ _ present
    exact other (beq_iff_eq.mpr same.symm)

namespace Enclosed

/-- A text without quotes is enclosed if its last character is no backslash. -/
theorem of_getLast? {text : List Char} (absent : quote ∉ text)
    (ends : text.getLast? ≠ some '\\') : Enclosed quote true text := by
  induction text using List.twoStepInduction with
  | nil => exact .nil
  | singleton c =>
      exact .plain (List.ne_of_not_mem_cons absent).symm (fun _ => by simpa using ends) .nil
  | cons_cons c next text tail whole =>
      rw [List.mem_cons, not_or] at absent
      obtain ⟨notQuote, absent⟩ := absent
      rw [List.getLast?_cons_cons] at ends
      by_cases backslash : c = '\\'
      · subst backslash
        refine .escape rfl next (tail (fun member => absent (List.mem_cons_of_mem _ member)) ?_)
        cases text with
        | nil => simp
        | cons _ _ => simpa using ends
      · exact .plain (Ne.symm notQuote) (fun _ => backslash) (whole next absent ends)

/-- Backslashes escape each other two by two. -/
theorem replicate_backslash {count : Nat} (even : Even count) :
    Enclosed quote true (List.replicate count '\\') := by
  obtain ⟨half, rfl⟩ := even
  induction half with
  | zero => exact .nil
  | succ half ih =>
      have twice : half + 1 + (half + 1) = half + half + 1 + 1 := by omega
      rw [twice, List.replicate_succ, List.replicate_succ]
      exact .escape rfl '\\' ih

/-- A text without quotes is enclosed up to the backslashes that it ends with. -/
theorem exists_front {text : List Char} (absent : quote ∉ text) :
    ∃ front, text = front ++ List.replicate (trailingBackslashes text) '\\' ∧
      Enclosed quote true front := by
  obtain ⟨front, cut, ends⟩ := exists_eq_append_trailing text
  have inFront : quote ∉ front := fun member => absent (cut ▸ List.mem_append_left _ member)
  exact ⟨front, cut, of_getLast? inFront ends⟩

/-- If the number of these backslashes is even, the whole text is enclosed. -/
theorem of_even {text : List Char} (absent : quote ∉ text)
    (even : Even (trailingBackslashes text)) : Enclosed quote true text := by
  obtain ⟨front, cut, enclosed⟩ := exists_front absent
  rw [cut]
  exact enclosed.append (replicate_backslash even)

/-- If it is odd, the last backslash is left over. -/
theorem exists_of_odd {text : List Char} (absent : quote ∉ text)
    (odd : ¬ Even (trailingBackslashes text)) :
    ∃ front, text = front ++ ['\\'] ∧ Enclosed quote true front := by
  obtain ⟨front, cut, enclosed⟩ := exists_front absent
  obtain ⟨half, counted⟩ := Nat.not_even_iff_odd.mp odd
  refine ⟨front ++ List.replicate (2 * half) '\\', ?_,
    enclosed.append (replicate_backslash (even_two_mul half))⟩
  rw [List.append_assoc, ← List.replicate_succ', ← counted]
  exact cut

end Enclosed

/-- A quote closes a literal exactly if the number of backslashes in front of it is even. -/
theorem literalBody_of_absent (different : quote ≠ '\\') {body : List Char}
    (absent : quote ∉ body) (rest : List Char) :
    literalBody quote true (body ++ quote :: rest) =
      if Even (trailingBackslashes body) then body
      else body ++ quote :: literalBody quote true rest := by
  by_cases even : Even (trailingBackslashes body)
  · rw [if_pos even, (Enclosed.of_even absent even).literalBody_append_quote different]
  · obtain ⟨front, cut, enclosed⟩ := Enclosed.exists_of_odd absent even
    rw [if_neg even, cut, List.append_assoc, enclosed.literalBody_append different,
      List.singleton_append, literalBody_escape different rfl, List.append_assoc]
    rfl

/-- Reading goes on behind the quote, or behind the next quote that closes a literal. -/
theorem behindLiteral_of_absent (different : quote ≠ '\\') {body : List Char}
    (absent : quote ∉ body) (rest : List Char) :
    behindLiteral quote true (body ++ quote :: rest) =
      if Even (trailingBackslashes body) then rest else behindLiteral quote true rest := by
  rw [behindLiteral, literalBody_of_absent different absent]
  by_cases even : Even (trailingBackslashes body)
  · rw [if_pos even, if_pos even, ← List.drop_drop, List.drop_left, List.drop_one,
      List.tail_cons]
  · rw [if_neg even, if_neg even, behindLiteral, List.length_append, List.length_cons,
      Nat.add_assoc, ← List.drop_drop, List.drop_left]
    rfl

/-! ## Keys -/

/-- An object key holds letters, digits, underscores and hyphens only. -/
theorem isKey_eq_false {literal : List Char} {c : Char} (member : c ∈ literal)
    (other : isIdentifierCharacter c = false) : isKey literal = false := by
  rw [isKey, Bool.and_eq_false_iff]
  right
  rw [List.all_eq_false]
  exact ⟨c, member, by simpa [isIdentifierCharacter] using other⟩

/-! ## Literals as lexemes -/

/-- A literal that holds no quote of its own is passed over if the number of backslashes at its
end is even.  Otherwise its closing quote is taken for a part of it. -/
theorem tokens_literal_of_absent
    (noComment : ∀ rest, commentLength lexicon (quote :: rest) = none)
    (opens : lexicon.quotes.contains quote = true) (escaping : lexicon.escapesInQuotes = true)
    (different : quote ≠ '\\') {body rest : List Char} (absent : quote ∉ body)
    (noKey : firstInk rest ≠ some ':') :
    tokens lexicon hyphenated (quote :: (body ++ quote :: rest)) =
      tokens lexicon hyphenated
        (if Even (trailingBackslashes body) then rest else behindLiteral quote true rest) := by
  rw [← behindLiteral_of_absent different absent, ← escaping]
  refine tokens_quote (noComment _) opens ?_
  rw [escaping, behindLiteral_of_absent different absent]
  by_cases even : Even (trailingBackslashes body)
  · rw [if_pos even]
    exact .inl noKey
  · obtain ⟨front, cut, -⟩ := Enclosed.exists_of_odd absent even
    have backslash : '\\' ∈ body := by
      rw [cut]
      exact List.mem_append_right _ List.mem_cons_self
    have inside : literalBody quote true (body ++ quote :: rest) =
        body ++ quote :: literalBody quote true rest := by
      rw [literalBody_of_absent different absent, if_neg even]
    exact .inr (isKey_eq_false (inside ▸ List.mem_append_left _ backslash) (by decide))

namespace LiteralStyle

/-- Between single quotes that open no literal a character that no identifier begins with is passed
over, unless it opens a literal itself. -/
theorem tokens_rust_character {c : Char} (noEscape : c ≠ '\\')
    (noStart : startsIdentifier c = false) (rest : List Char) :
    tokens rust.lexicon hyphenated ('\'' :: c :: '\'' :: rest) =
      tokens rust.lexicon hyphenated (if c = '"' then behindLiteral '"' true rest else rest) := by
  have mark (rest : List Char) :
      tokens rust.lexicon hyphenated ('\'' :: rest) = tokens rust.lexicon hyphenated rest :=
    tokens_cons_of_inert (by decide) (by decide) rest
  rw [mark]
  by_cases doubled : c = '"'
  · subst doubled
    have inside : literalBody '"' true ('\'' :: rest) = '\'' :: literalBody '"' true rest :=
      literalBody_plain (by decide) (fun _ => by decide) rest
    have noKey : isKey (literalBody '"' true ('\'' :: rest)) = false :=
      isKey_eq_false (inside ▸ List.mem_cons_self) (by decide)
    rw [if_pos rfl, tokens_quote rfl rfl (.inr noKey)]
    change tokens _ _ (behindLiteral '"' true ('\'' :: rest)) = _
    rw [behindLiteral, inside]
    rfl
  · rw [if_neg doubled]
    by_cases slash : c = '/'
    · -- A slash may begin a comment, but not in front of a single quote.
      subst slash
      have found : lexeme rust.lexicon hyphenated '/' ('\'' :: rest) = ⟨1, none⟩ := rfl
      exact (tokens_of_lexeme found Nat.one_pos).trans (mark rest)
    · have unopened : c ∉ '\\' :: rust.lexicon.openers := by
        have openers : '\\' :: rust.lexicon.openers = ['\\', '"', '/', '/'] := by decide
        simp only [openers, List.mem_cons, List.not_mem_nil, or_false, not_or]
        exact ⟨noEscape, doubled, slash, slash⟩
      rw [tokens_cons_of_inert unopened noStart, mark]

end LiteralStyle

/-- A Go raw literal is passed over if an even number of backslashes stands in front of its closing
quote, and a Rust character literal is passed over unless the character is the quote of string
literals.  Otherwise a literal is read that ends in the text behind, or nowhere. -/
theorem tokens_foreignLiteral {rest : List Char} (noKey : firstInk rest ≠ some ':')
    (hyphenated : Bool) :
    (∀ body : List Char, '\x60' ∉ body →
      tokens LiteralStyle.go.lexicon hyphenated ('\x60' :: (body ++ '\x60' :: rest)) =
        tokens LiteralStyle.go.lexicon hyphenated
          (if Even (trailingBackslashes body) then rest else behindLiteral '\x60' true rest)) ∧
    ∀ c, c ≠ '\\' → c ≠ '_' → isAlphanumeric c = false →
      tokens LiteralStyle.rust.lexicon hyphenated ('\'' :: c :: '\'' :: rest) =
        tokens LiteralStyle.rust.lexicon hyphenated
          (if c = '"' then behindLiteral '"' true rest else rest) := by
  constructor
  · intro body absent
    exact tokens_literal_of_absent (fun _ => rfl) rfl rfl (by decide) absent noKey
  · intro c noEscape noUnderscore other
    have noStart : startsIdentifier c = false := by
      by_contra starts
      rw [Bool.not_eq_false] at starts
      have inside := isAlphanumeric_of_startsIdentifier starts
      rw [other, Bool.false_or, beq_iff_eq] at inside
      exact noUnderscore inside
    exact LiteralStyle.tokens_rust_character noEscape noStart rest

/-- A raw literal that ends with two backslashes, and a character that begins comments. -/
theorem tokens_foreignLiteral_passedOver :
    firstInk " + version".toList ≠ some ':' ∧ '\x60' ∉ "\" commit_hash \\\\".toList ∧
      isAlphanumeric '/' = false ∧
      tokens LiteralStyle.go.lexicon false
          ('\x60' :: ("\" commit_hash \\\\".toList ++ '\x60' :: " + version".toList)) =
        ["version".toList] ∧
      tokens LiteralStyle.rust.lexicon false ('\'' :: '/' :: '\'' :: " + version".toList) =
        ["version".toList] := by
  have noKey : firstInk " + version".toList ≠ some ':' := by decide
  have absent : '\x60' ∉ "\" commit_hash \\\\".toList := by decide
  have other : isAlphanumeric '/' = false := by decide
  have even : Even (trailingBackslashes "\" commit_hash \\\\".toList) := ⟨1, by decide⟩
  obtain ⟨raw, character⟩ := tokens_foreignLiteral noKey false
  refine ⟨noKey, absent, other, ?_, ?_⟩
  · rw [raw _ absent, if_pos even]
    decide
  · rw [character '/' (by decide) (by decide) other, if_neg (by decide)]
    decide

/-- One backslash in front of the closing quote, or a double quote as the character, and the
identifier behind the literal is not seen. -/
theorem tokens_foreignLiteral_hidden :
    firstInk " + version".toList ≠ some ':' ∧ '\x60' ∉ ['\\'] ∧
      isAlphanumeric '"' = false ∧
      tokens LiteralStyle.go.lexicon false
          ('\x60' :: (['\\'] ++ '\x60' :: " + version".toList)) = [] ∧
      tokens LiteralStyle.go.lexicon false " + version".toList = ["version".toList] ∧
      tokens LiteralStyle.rust.lexicon false ('\'' :: '"' :: '\'' :: " + version".toList) = [] ∧
      tokens LiteralStyle.rust.lexicon false " + version".toList = ["version".toList] := by
  decide

end Imprint
