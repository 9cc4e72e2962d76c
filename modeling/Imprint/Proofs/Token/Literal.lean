import Imprint.Proofs.Literal.Translation
import Imprint.Proofs.Token.Settled

/-!
# Literals hold no identifiers

A literal that is written with an escaped value ends where the value ends, in the eyes of the
tokenizer too.  No value can close its literal early, open a comment or pass for an object key, so
the identifiers of a text do not depend on the values between its quotes.
-/

namespace Imprint

open Text

variable {lexicon : Lexicon} {hyphenated : Bool}

/-! ## What a literal passes over -/

/-- A character that is no quote and begins no escape is passed over on its own. -/
theorem literalBody_plain {quote c : Char} {escapes : Bool} (notQuote : c ≠ quote)
    (single : escapes = true → c ≠ '\\') (rest : List Char) :
    literalBody quote escapes (c :: rest) = c :: literalBody quote escapes rest := by
  cases rest with
  | nil => simp [literalBody, notQuote]
  | cons next rest =>
      rw [literalBody, if_neg (by simpa using notQuote), if_neg (by simpa using single)]

/-- Where a backslash escapes it takes the next character along. -/
theorem literalBody_escape {quote : Char} {escapes : Bool} (different : quote ≠ '\\')
    (escaping : escapes = true) (c : Char) (rest : List Char) :
    literalBody quote escapes ('\\' :: c :: rest) =
      '\\' :: c :: literalBody quote escapes rest := by
  rw [literalBody, if_neg (by simpa using different.symm), if_pos (by simpa using escaping)]

/-- Text inside a literal that its closing quote cannot be mistaken in.  Where a backslash escapes,
every quote and every backslash is the second character of an escape or begins one. -/
inductive Enclosed (quote : Char) (escapes : Bool) : List Char → Prop
  | nil : Enclosed quote escapes []
  | plain {c : Char} {text : List Char} (notQuote : c ≠ quote)
      (single : escapes = true → c ≠ '\\') (rest : Enclosed quote escapes text) :
      Enclosed quote escapes (c :: text)
  | escape {text : List Char} (escaping : escapes = true) (c : Char)
      (rest : Enclosed quote escapes text) : Enclosed quote escapes ('\\' :: c :: text)

namespace Enclosed

variable {quote : Char} {escapes : Bool}

theorem append {first second : List Char} (left : Enclosed quote escapes first)
    (right : Enclosed quote escapes second) : Enclosed quote escapes (first ++ second) := by
  induction left with
  | nil => exact right
  | plain notQuote single _ ih => exact .plain notQuote single ih
  | escape escaping c _ ih => exact .escape escaping c ih

theorem of_forall {text : List Char}
    (inert : ∀ c ∈ text, c ≠ quote ∧ (escapes = true → c ≠ '\\')) :
    Enclosed quote escapes text := by
  induction text with
  | nil => exact .nil
  | cons c text ih =>
      obtain ⟨notQuote, single⟩ := inert c List.mem_cons_self
      exact .plain notQuote single (ih fun d member => inert d (List.mem_cons_of_mem c member))

/-- What is enclosed is read as part of the literal, and reading goes on behind it. -/
theorem literalBody_append (different : quote ≠ '\\') {text : List Char}
    (enclosed : Enclosed quote escapes text) (more : List Char) :
    literalBody quote escapes (text ++ more) = text ++ literalBody quote escapes more := by
  induction enclosed with
  | nil => rfl
  | plain notQuote single _ ih =>
      rw [List.cons_append, literalBody_plain notQuote single, ih, List.cons_append]
  | escape escaping c _ ih =>
      rw [List.cons_append, List.cons_append, literalBody_escape different escaping, ih,
        List.cons_append, List.cons_append]

/-- The inside of a literal is read up to its closing quote. -/
theorem literalBody_append_quote (different : quote ≠ '\\') {text : List Char}
    (enclosed : Enclosed quote escapes text) (rest : List Char) :
    literalBody quote escapes (text ++ quote :: rest) = text := by
  rw [enclosed.literalBody_append different, literalBody_quote, List.append_nil]

end Enclosed

namespace LiteralStyle

theorem enclosed_of_digits {base : Nat} {text : List Char}
    (allDigits : ∀ digit ∈ text, isDigitOf base digit = true) : Enclosed '"' true text := by
  refine .of_forall fun c member => ⟨?_, fun _ => ?_⟩
  all_goals
    rintro rfl
    have digit := allDigits _ member
    contradiction

/-- A byte between octal digits is one escape and two digits. -/
theorem enclosed_octalByte (byte : Nat) : Enclosed '"' true (octalByte byte) := by
  have allDigits : ∀ digit ∈ padded 8 3 byte, isDigitOf 8 digit = true :=
    isDigitOf_padded (by omega) (by omega) 3 byte
  cases written : padded 8 3 byte with
  | nil => simp [padded] at written
  | cons digit digits =>
      rw [written] at allDigits
      rw [octalByte, written]
      exact .escape rfl digit (enclosed_of_digits fun d member =>
        allDigits d (List.mem_cons_of_mem digit member))

theorem enclosed_escapeControl (style : LiteralStyle) {c : Char}
    (unprintable : isControl c = true) : Enclosed '"' true (style.escapeControl c) := by
  have hexadecimal (width : Nat) : Enclosed '"' true (padded 16 width c.toNat) :=
    enclosed_of_digits (isDigitOf_padded (by omega) (by omega) width c.toNat)
  cases style with
  | c =>
      rw [escapeControl]
      induction utf8Bytes c with
      | nil => exact .nil
      | cons byte bytes ih => exact (enclosed_octalByte byte).append ih
  | java => exact enclosed_octalByte c.toNat
  | python | javaScript => exact .escape rfl 'x' (hexadecimal 2)
  | rust =>
      have digits : Enclosed '"' true (Nat.toDigits 16 c.toNat) :=
        enclosed_of_digits (isDigitOf_toDigits (by omega) (by omega) c.toNat)
      exact .escape rfl 'u' (.plain (by decide) (by decide)
        (digits.append (.plain (by decide) (by decide) .nil)))
  | go | cSharp | json => exact .escape rfl 'u' (hexadecimal 4)
  | shell =>
      refine .plain ?_ (fun _ => ?_) .nil
      all_goals
        rintro rfl
        contradiction

theorem enclosed_escapeChar (style : LiteralStyle) (previous : Option Char) (c : Char) :
    Enclosed '"' true (style.escapeChar previous c) := by
  have shape := escaped_escapeChar style previous c
  generalize style.escapeChar previous c = written at shape
  cases shape with
  | short listed => exact .escape rfl _ .nil
  | question trigraphs self doubled => exact .escape rfl _ .nil
  | separator breaks listed =>
      have inert : ((padded 16 4 c.toNat).map Char.toUpper).all
          (fun digit => digit != '"' && digit != '\\') = true := by
        rcases listed with rfl | rfl <;> decide
      refine .escape rfl _ (.of_forall fun digit member => ?_)
      simpa using List.all_eq_true.mp inert digit member
  | control unprintable => exact style.enclosed_escapeControl unprintable
  | plain notQuote notBackslash notFeed notReturn =>
      exact .plain notQuote (fun _ => notBackslash) .nil

theorem enclosed_escapeFrom (style : LiteralStyle) (previous : Option Char)
    (value : List Char) : Enclosed '"' true (style.escapeFrom previous value) := by
  induction value generalizing previous with
  | nil => exact .nil
  | cons c value ih => exact (style.enclosed_escapeChar previous c).append (ih (some c))

end LiteralStyle

/-! ## Literals in a text -/

/-- The text behind the literal whose opening quote has been read. -/
def behindLiteral (quote : Char) (escapes : Bool) (text : List Char) : List Char :=
  text.drop ((literalBody quote escapes text).length + 1)

/-- A literal is one lexeme.  It is no identifier unless it can be a key and a colon follows. -/
theorem tokens_quote {quote : Char} {text : List Char}
    (noComment : commentLength lexicon (quote :: text) = none)
    (opens : lexicon.quotes.contains quote = true)
    (noKey : firstInk (behindLiteral quote lexicon.escapesInQuotes text) ≠ some ':' ∨
      isKey (literalBody quote lexicon.escapesInQuotes text) = false) :
    tokens lexicon hyphenated (quote :: text) =
      tokens lexicon hyphenated (behindLiteral quote lexicon.escapesInQuotes text) := by
  have noToken : ((trimStart (behindLiteral quote lexicon.escapesInQuotes text)).head? ==
      some ':' && isKey (literalBody quote lexicon.escapesInQuotes text)) = false := by
    rw [Bool.and_eq_false_iff]
    exact noKey.imp_left beq_false_of_ne
  rw [behindLiteral] at noToken ⊢
  have found : lexeme lexicon hyphenated quote text =
      ⟨(literalBody quote lexicon.escapesInQuotes text).length + 2, none⟩ := by
    simp only [lexeme, noComment, opens, if_true, literalLexeme, noToken, Bool.false_eq_true,
      if_false]
  exact tokens_of_lexeme found (Nat.succ_pos _)

/-- A closed literal is no identifier unless a colon follows. -/
theorem tokens_literal {quote : Char}
    (noComment : ∀ rest, commentLength lexicon (quote :: rest) = none)
    (opens : lexicon.quotes.contains quote = true) {body rest : List Char}
    (closes : literalBody quote lexicon.escapesInQuotes (body ++ quote :: rest) = body)
    (noKey : firstInk rest ≠ some ':') :
    tokens lexicon hyphenated (quote :: (body ++ quote :: rest)) =
      tokens lexicon hyphenated rest := by
  have behind : behindLiteral quote lexicon.escapesInQuotes (body ++ quote :: rest) = rest := by
    rw [behindLiteral, closes, List.drop_append, List.drop_eq_nil_of_le (Nat.le_succ _),
      Nat.add_sub_cancel_left]
    rfl
  rw [tokens_quote (noComment _) opens (.inl (by rwa [behind])), behind]

namespace LiteralStyle

theorem commentLength_quote (style : LiteralStyle) (rest : List Char) :
    commentLength style.lexicon (style.quote :: rest) = none := by
  cases style <;> rfl

theorem contains_quote (style : LiteralStyle) :
    style.lexicon.quotes.contains style.quote = true := by
  cases style <;> rfl

/-- An escaped quote outside literals is passed over in the shell. -/
theorem tokens_escapedQuote (rest : List Char) :
    tokens shell.lexicon hyphenated ('\\' :: '\'' :: rest) =
      tokens shell.lexicon hyphenated rest := by
  have found : lexeme shell.lexicon hyphenated '\\' ('\'' :: rest) = ⟨2, none⟩ := rfl
  exact tokens_of_lexeme found Nat.two_pos

/-- In the shell a value is written in pieces, each of them a literal.  `text` is what has been
read of the piece in hand. -/
theorem tokens_escapeSingleQuoted {text : List Char} (inert : ∀ c ∈ text, c ≠ '\'')
    (value : List Char) {rest : List Char} (noKey : firstInk rest ≠ some ':') :
    tokens shell.lexicon hyphenated
        ('\'' :: (text ++ escapeSingleQuoted value ++ '\'' :: rest)) =
      tokens shell.lexicon hyphenated rest := by
  have piece (more : List Char) {text : List Char} (inert : ∀ c ∈ text, c ≠ '\'')
      (noKey : firstInk more ≠ some ':') :
      tokens shell.lexicon hyphenated ('\'' :: (text ++ '\'' :: more)) =
        tokens shell.lexicon hyphenated more :=
    have enclosed : Enclosed '\'' false text :=
      .of_forall fun c member => ⟨inert c member, fun escapes => nomatch escapes⟩
    tokens_literal shell.commentLength_quote shell.contains_quote
      (enclosed.literalBody_append_quote (by decide) more) noKey
  induction value generalizing text with
  | nil =>
      rw [escapeSingleQuoted, List.flatMap_nil, List.append_nil]
      exact piece rest inert noKey
  | cons c value ih =>
      rw [escapeSingleQuoted] at ih ⊢
      rw [List.flatMap_cons]
      by_cases quote : c = '\''
      · subst quote
        rw [if_pos (by decide), List.append_assoc, List.append_assoc, List.cons_append,
          piece _ inert (by simp [firstInk, trimStart_cons, isBlank]), List.cons_append,
          List.cons_append, tokens_escapedQuote]
        have next := @ih [] fun d member => absurd member List.not_mem_nil
        rwa [List.nil_append] at next
      · rw [if_neg (by simpa using quote), ← List.append_assoc]
        refine ih fun d member => ?_
        rcases List.mem_append.mp member with earlier | last
        · exact inert d earlier
        · rwa [List.mem_singleton.mp last]

/-- The literal of an escaped value holds no identifier, whatever the value is. -/
theorem tokens_escapeChars (style : LiteralStyle) (value : List Char) {rest : List Char}
    (noKey : firstInk rest ≠ some ':') :
    tokens style.lexicon hyphenated
        (style.quote :: (style.escapeChars value ++ style.quote :: rest)) =
      tokens style.lexicon hyphenated rest := by
  cases style with
  | shell =>
      exact tokens_escapeSingleQuoted (fun d member => absurd member List.not_mem_nil) value noKey
  | c | go | rust | python | javaScript | java | cSharp | json =>
      exact tokens_literal (commentLength_quote _) (contains_quote _)
        ((enclosed_escapeFrom _ none value).literalBody_append_quote (by decide) rest) noKey

end LiteralStyle

end Imprint
