import Imprint.Proofs.Token.Cursor

/-!
# Where identifiers stand

Every identifier that is read is a piece of the text: a run of identifier characters, or the whole
inside of a literal that a colon follows.  Main statement: no turn of reading fails, and what a
reading finds are non-empty pieces of the text, one behind the other, of these two kinds; every
reading ends exactly if no line comment is opened by a line break.
-/

namespace Imprint

open Text

/-! ## The inside of a literal -/

/-- A literal that ends before the text does is closed by its quote. -/
theorem literalBody_closed {quote : Char} {escapes : Bool} {text : List Char}
    (closed : (literalBody quote escapes text).length < text.length) :
    literalBody quote escapes text ++
        quote :: text.drop ((literalBody quote escapes text).length + 1) = text := by
  induction text using literalBody.induct quote escapes with
  | case1 => exact absurd closed (Nat.lt_irrefl 0)
  | case2 c ends =>
      obtain rfl := beq_iff_eq.mp ends
      rw [literalBody_quote]
      rfl
  | case3 c goesOn =>
      rw [literalBody, if_neg goesOn] at closed
      exact absurd closed (Nat.lt_irrefl 1)
  | case4 c next rest ends =>
      obtain rfl := beq_iff_eq.mp ends
      rw [literalBody_quote]
      rfl
  | case5 c next rest goesOn escaped ih =>
      rw [literalBody, if_neg goesOn, if_pos escaped] at closed ⊢
      have inner := ih (Nat.lt_of_add_lt_add_right (n := 2) closed)
      rw [List.length_cons, List.length_cons, List.drop_succ_cons, List.drop_succ_cons,
        List.cons_append, List.cons_append, inner]
  | case6 c next rest goesOn single ih =>
      rw [literalBody, if_neg goesOn, if_neg single] at closed ⊢
      have inner := ih (Nat.lt_of_add_lt_add_right closed)
      rw [List.length_cons, List.drop_succ_cons, List.cons_append, inner]

/-- Only behind a backslash does a literal hold its own quote. -/
theorem quote_not_mem_literalBody {quote : Char} {escapes : Bool} {text : List Char}
    (plain : '\\' ∉ literalBody quote escapes text) : quote ∉ literalBody quote escapes text := by
  induction text using literalBody.induct quote escapes with
  | case1 => exact List.not_mem_nil
  | case2 c ends => rw [literalBody, if_pos ends]; exact List.not_mem_nil
  | case3 c goesOn =>
      rw [literalBody, if_neg goesOn, List.mem_singleton]
      rintro rfl
      exact goesOn (beq_self_eq_true quote)
  | case4 c next rest ends => rw [literalBody, if_pos ends]; exact List.not_mem_nil
  | case5 c next rest goesOn escaped ih =>
      rw [literalBody, if_neg goesOn, if_pos escaped] at plain
      obtain rfl := beq_iff_eq.mp (Bool.and_eq_true_iff.mp escaped).2
      exact absurd List.mem_cons_self plain
  | case6 c next rest goesOn single ih =>
      rw [literalBody, if_neg goesOn, if_neg single] at plain ⊢
      rw [List.mem_cons, not_or] at plain ⊢
      refine ⟨?_, ih plain.2⟩
      rintro rfl
      exact goesOn (beq_self_eq_true quote)

/-- Keys are made of letters, digits, underscores and hyphens, so they hold no backslash. -/
theorem backslash_not_mem_of_isKey {literal : List Char} (key : isKey literal = true) :
    '\\' ∉ literal := by
  intro member
  rw [isKey, Bool.and_eq_true, List.all_eq_true] at key
  exact absurd (key.2 '\\' member) (by decide +kernel)

/-! ## Runs of identifier characters -/

theorem all_identifierRun (hyphenated : Bool) (text : List Char) :
    (identifierRun hyphenated text).all isIdentifierCharacter = true := by
  induction text using identifierRun.induct hyphenated with
  | case1 => rfl
  | case2 c rest goesOn ih =>
      have character : isIdentifierCharacter c = true := by
        rw [isIdentifierCharacter]
        rw [Bool.or_eq_true, Bool.and_eq_true, Bool.and_eq_true] at goesOn
        exact Bool.or_eq_true_iff.mpr (goesOn.imp_right fun joins => joins.1.2)
      rw [identifierRun, if_pos goesOn, List.all_cons, character, ih, Bool.and_self]
  | case3 c rest stops => rw [identifierRun, if_neg stops]; rfl

/-- Where a letter or digit follows, the run goes on with it. -/
theorem head?_identifierRun {hyphenated : Bool} {text : List Char}
    (follows : text.head?.any isAlphanumeric = true) :
    (identifierRun hyphenated text).head?.any isAlphanumeric = true := by
  cases text with
  | nil => exact follows
  | cons c rest =>
      have letter : isAlphanumeric c = true := follows
      rw [identifierRun, letter, Bool.true_or, Bool.true_or, if_pos rfl]
      exact letter

theorem hyphensJoin_identifierRun (hyphenated : Bool) (text : List Char) :
    HyphensJoin hyphenated (identifierRun hyphenated text) := by
  induction text using identifierRun.induct hyphenated with
  | case1 => exact hyphensJoin_of_not_mem List.not_mem_nil
  | case2 c rest goesOn ih =>
      rw [identifierRun, if_pos goesOn, hyphensJoin_cons]
      refine ⟨?_, ih⟩
      rintro rfl
      rw [isAlphanumeric_hyphen, Bool.false_or, Bool.or_eq_true, Bool.and_eq_true,
        Bool.and_eq_true] at goesOn
      rcases goesOn with underscore | ⟨⟨on, -⟩, follows⟩
      · exact absurd underscore (by decide)
      · exact ⟨on, head?_identifierRun follows⟩
  | case3 c rest stops =>
      rw [identifierRun, if_neg stops]
      exact hyphensJoin_of_not_mem List.not_mem_nil

theorem isIdentifier_identifierRun (hyphenated : Bool) {c : Char} (rest : List Char)
    (starts : startsIdentifier c = true) :
    isIdentifier (identifierRun hyphenated (c :: rest)) = true := by
  have goesOn : (isAlphanumeric c || c == '_' ||
      (hyphenated && c == '-' && rest.head?.any isAlphanumeric)) = true := by
    rw [isAlphanumeric_of_startsIdentifier starts, Bool.true_or]
  rw [identifierRun, if_pos goesOn, isIdentifier_cons, starts, all_identifierRun, Bool.true_and]

/-! ## Spans -/

/-- A stretch of a text between two indices. -/
structure Span where
  start : Nat
  stop : Nat
  deriving DecidableEq

namespace Span

/-- The characters in a span. -/
def piece (text : List Char) (span : Span) : List Char := text.extract span.start span.stop

/-- A span that holds an identifier: a letter or an underscore, then letters, digits, underscores
and, where identifiers are hyphenated, hyphens before a letter or digit. -/
def HoldsIdentifier (hyphenated : Bool) (text : List Char) (span : Span) : Prop :=
  isIdentifier (span.piece text) = true ∧ HyphensJoin hyphenated (span.piece text)

/-- A span that is the inside of a literal between two quotes and can be a key, with a colon behind
the literal and white space between. -/
def HoldsKey (lexicon : Lexicon) (text : List Char) (span : Span) : Prop :=
  ∃ before quote after, text = before ++ quote :: (span.piece text ++ quote :: after) ∧
    before.length + 1 = span.start ∧ quote ∈ lexicon.quotes ∧ quote ∉ span.piece text ∧
    isKey (span.piece text) = true ∧ firstInk after = some ':'

/-- What a token's span looks like. -/
structure IsToken (lexicon : Lexicon) (hyphenated : Bool) (text : List Char) (span : Span) :
    Prop where
  present : span.start < span.stop
  inside : span.stop ≤ text.length
  kind : span.HoldsIdentifier hyphenated text ∨ span.HoldsKey lexicon text

variable {lexicon : Lexicon} {hyphenated : Bool} {text : List Char}

theorem piece_of_eq_append {before inner after : List Char}
    (split : text = before ++ (inner ++ after)) :
    (⟨before.length, before.length + inner.length⟩ : Span).piece text = inner := by
  rw [piece, List.extract_eq_take_drop, split, List.drop_left, Nat.add_sub_cancel_left,
    List.take_left]

/-- Between what stands before and behind it, a piece that is not empty has a span of its own. -/
theorem bounds_of_eq_append {before inner after : List Char}
    (split : text = before ++ (inner ++ after)) (present : inner ≠ []) :
    before.length < before.length + inner.length ∧
      before.length + inner.length ≤ text.length := by
  have positive := List.length_pos_iff.mpr present
  rw [split, List.length_append, List.length_append]
  omega

/-- An identifier is a lexeme as a whole. -/
theorem exists_of_identifierRun {before : List Char} {c : Char} {rest : List Char}
    (split : text = before ++ c :: rest) (starts : startsIdentifier c = true) :
    ∃ span : Span, span.piece text = identifierRun hyphenated (c :: rest) ∧
      before.length ≤ span.start ∧
      span.stop ≤ before.length + (identifierRun hyphenated (c :: rest)).length ∧
      span.IsToken lexicon hyphenated text := by
  have identifier := isIdentifier_identifierRun hyphenated rest starts
  have joins := hyphensJoin_identifierRun hyphenated (c :: rest)
  obtain ⟨after, whole⟩ := identifierRun_prefix hyphenated (c :: rest)
  rw [← whole] at split
  generalize identifierRun hyphenated (c :: rest) = run at *
  have present : run ≠ [] := by
    rintro rfl
    contradiction
  have same := piece_of_eq_append split
  obtain ⟨positive, inside⟩ := bounds_of_eq_append split present
  refine ⟨⟨before.length, before.length + run.length⟩, same, le_rfl, le_rfl, positive, inside,
    .inl ?_⟩
  rw [HoldsIdentifier, same]
  exact ⟨identifier, joins⟩

/-- A key stands between the quotes of a lexeme. -/
theorem exists_of_literalLexeme {before : List Char} {quote : Char} {rest token : List Char}
    (split : text = before ++ quote :: rest) (opens : quote ∈ lexicon.quotes)
    (found : (literalLexeme lexicon quote rest).token = some token) :
    ∃ span : Span, span.piece text = token ∧ before.length ≤ span.start ∧
      span.stop ≤ before.length + (literalLexeme lexicon quote rest).length ∧
      span.IsToken lexicon hyphenated text := by
  rw [literalLexeme] at found ⊢
  dsimp only at found ⊢
  split at found
  case isFalse => contradiction
  case isTrue keyed =>
    rw [Bool.and_eq_true, beq_iff_eq] at keyed
    obtain ⟨colon, key⟩ := keyed
    have closed : (literalBody quote lexicon.escapesInQuotes rest).length < rest.length := by
      by_contra ends
      rw [List.drop_eq_nil_of_le (by omega)] at colon
      contradiction
    have whole := literalBody_closed closed
    have unquoted := quote_not_mem_literalBody (backslash_not_mem_of_isKey key)
    cases found
    generalize literalBody quote lexicon.escapesInQuotes rest = body at *
    generalize rest.drop (body.length + 1) = after at *
    have placed : text = (before ++ [quote]) ++ (body ++ quote :: after) := by
      rw [split, ← whole, List.append_assoc, List.singleton_append]
    have present : body ≠ [] := by
      rintro rfl
      contradiction
    have same := piece_of_eq_append placed
    obtain ⟨positive, inside⟩ := bounds_of_eq_append placed present
    have start : (before ++ [quote]).length = before.length + 1 := List.length_append
    rw [start] at same positive inside
    refine ⟨⟨before.length + 1, before.length + 1 + body.length⟩, same, Nat.le_succ _, ?_, positive,
      inside, .inr ⟨before, quote, after, ?_, rfl, opens, ?_, ?_, colon⟩⟩
    · dsimp only
      omega
    · rw [same, split, whole]
    · rwa [same]
    · rwa [same]

/-- The token of a lexeme stands in the lexeme. -/
theorem exists_of_lexeme {before : List Char} {c : Char} {rest token : List Char}
    (split : text = before ++ c :: rest)
    (found : (lexeme lexicon hyphenated c rest).token = some token) :
    ∃ span : Span, span.piece text = token ∧ before.length ≤ span.start ∧
      span.stop ≤ before.length + (lexeme lexicon hyphenated c rest).length ∧
      span.IsToken lexicon hyphenated text := by
  rw [lexeme] at found ⊢
  cases commented : commentLength lexicon (c :: rest) with
  | some length =>
      rw [commented] at found
      contradiction
  | none =>
      rw [commented] at found
      dsimp only at found ⊢
      by_cases quote : lexicon.quotes.contains c = true
      · rw [if_pos quote] at found ⊢
        exact exists_of_literalLexeme split (List.contains_iff_mem.mp quote) found
      · rw [if_neg quote] at found ⊢
        by_cases backslash : (c == '\\') = true
        · rw [if_pos backslash] at found
          contradiction
        · rw [if_neg backslash] at found ⊢
          by_cases starts : startsIdentifier c = true
          · rw [if_pos starts] at found ⊢
            cases found
            exact exists_of_identifierRun split starts
          · rw [if_neg starts] at found
            contradiction

/-! ## The spans of a text -/

/-- What reading finds from an index on are the pieces of spans behind the index, in order. -/
theorem exists_of_reads {index : Nat} {found : List (List Char)}
    (reads : Cursor.Reads lexicon hyphenated text index found) :
    ∃ spans : List Span, found = spans.map (piece text) ∧
      spans.Pairwise (fun first second => first.stop ≤ second.start) ∧
      ∀ span ∈ spans, index ≤ span.start ∧ span.IsToken lexicon hyphenated text := by
  induction reads with
  | done => exact ⟨[], rfl, .nil, List.forall_mem_nil _⟩
  | @turn index next token found inside turned _ ih =>
      obtain ⟨spans, rfl, apart, each⟩ := ih
      have here : text.drop index = text[index] :: text.drop (index + 1) :=
        List.drop_eq_getElem_cons inside
      rw [Cursor.turn_eq lexicon hyphenated here, Option.some.injEq, Prod.mk.injEq] at turned
      obtain ⟨rfl, token_eq⟩ := turned
      have later : ∀ span ∈ spans, index ≤ span.start ∧ span.IsToken lexicon hyphenated text :=
        fun span member => ⟨(Nat.le_add_right _ _).trans (each span member).1, (each span member).2⟩
      cases token with
      | none => exact ⟨spans, rfl, apart, later⟩
      | some token =>
          have split : text = text.take index ++ text[index] :: text.drop (index + 1) := by
            rw [← here, List.take_append_drop]
          obtain ⟨span, piece_eq, start, stop, isToken⟩ := exists_of_lexeme split token_eq
          rw [List.length_take_of_le inside.le] at start stop
          refine ⟨span :: spans, ?_, ?_, ?_⟩
          · rw [List.map_cons, piece_eq]
            rfl
          · exact .cons (fun other member => stop.trans (each other member).1) apart
          · exact List.forall_mem_cons.mpr ⟨⟨start, isToken⟩, later⟩

end Span

/-- With any lexicon no turn of reading fails, and a reading that ends has found the identifiers of
the text: pieces that are not empty, one behind the other, of which each is an identifier or the
whole inside of a literal that can be a key and is followed by a colon.  Every text is read to its
end exactly if no line comment is opened by a line break, as in the lexicons of all styles. -/
theorem reads_iff_and_spans :
    (∀ style : LiteralStyle, style.lexicon.IsRegular) ∧
      ∀ lexicon : Lexicon,
        (lexicon.IsRegular ↔
          ∀ hyphenated text, ∃ found, Cursor.Reads lexicon hyphenated text 0 found) ∧
        ∀ (hyphenated : Bool) (text : List Char),
          (∀ index < text.length, (Cursor.turn lexicon hyphenated text index).isSome = true) ∧
          ∀ found, Cursor.Reads lexicon hyphenated text 0 found →
            found = tokens lexicon hyphenated text ∧
            ∃ spans : List Span, found = spans.map (Span.piece text) ∧
              spans.Pairwise (fun first second => first.stop ≤ second.start) ∧
              ∀ span ∈ spans, span.start < span.stop ∧ span.stop ≤ text.length ∧
                (span.HoldsIdentifier hyphenated text ∨ span.HoldsKey lexicon text) := by
  refine ⟨LiteralStyle.isRegular, fun lexicon => ⟨Cursor.isRegular_iff, fun hyphenated text => ?_⟩⟩
  refine ⟨fun index inside => Cursor.isSome_turn lexicon hyphenated inside, fun found reads => ?_⟩
  obtain ⟨spans, pieces, apart, each⟩ := Span.exists_of_reads reads
  refine ⟨reads.eq_tokens_drop, spans, pieces, apart, fun span member => ?_⟩
  obtain ⟨-, present, inside, kind⟩ := each span member
  exact ⟨present, inside, kind⟩

/-- A key behind a comment, hyphens that join and do not, a literal that is no key, and a literal
that ends with the text, behind its last backslash. -/
theorem reads_iff_and_spans_unclosed :
    LiteralStyle.c.lexicon.IsRegular ∧
      tokens LiteralStyle.c.lexicon true
          "/* a */ \"build-date\" : x-1- + \"b\"; y = \"c\\".toList =
        ["build-date".toList, "x-1".toList, ['y']] ∧
      Cursor.Reads LiteralStyle.c.lexicon true
        "/* a */ \"build-date\" : x-1- + \"b\"; y = \"c\\".toList 0
        ["build-date".toList, "x-1".toList, ['y']] := by
  have found : tokens LiteralStyle.c.lexicon true
      "/* a */ \"build-date\" : x-1- + \"b\"; y = \"c\\".toList =
        ["build-date".toList, "x-1".toList, ['y']] := by
    decide +kernel
  obtain ⟨regular, located⟩ := reads_iff_and_spans
  obtain ⟨ends, each⟩ := located LiteralStyle.c.lexicon
  obtain ⟨identifiers, reads⟩ := ends.mp (regular .c) true
    "/* a */ \"build-date\" : x-1- + \"b\"; y = \"c\\".toList
  obtain ⟨rfl, -⟩ := (each true _).2 identifiers reads
  rw [found] at reads
  exact ⟨regular .c, found, reads⟩

/-- Where a line break opens a line comment, reading does not get past it.  And an identifier can
hold a number that is no digit. -/
theorem not_reads_lineBreak :
    (∀ hyphenated found,
        ¬ Cursor.Reads ⟨[], ["\n"], none, false⟩ hyphenated "\n".toList 0 found) ∧
      tokens LiteralStyle.c.lexicon false "a½".toList = ["a½".toList] ∧
      isAlphabetic '½' = false ∧ isDecimalDigit '½' = false := by
  refine ⟨fun hyphenated found reads => ?_, by decide +kernel, by decide +kernel,
    by decide +kernel⟩
  have rests : Cursor.turn ⟨[], ["\n"], none, false⟩ hyphenated "\n".toList 0 = some (0, none) :=
    Cursor.turn_of_lineBreak (List.mem_singleton_self "\n") rfl hyphenated
  exact reads.moves Nat.zero_lt_one none rests

end Imprint
