import Imprint.Proofs.Literal.Translation

/-!
# Escaping is undone by reading

The literal made of a style's quote, an escaped value and the same quote is read back as that value,
and reading it ends at the closing quote.  This holds for every style and every value, whatever
follows the literal; only the shell joins what stands next to a closing quote to the word.
-/

namespace Imprint

open Text

/-! ## Numeric escapes -/

theorem characterEscape_toNat (c : Char) (length : Nat) :
    characterEscape c.toNat length = some (String.utf8EncodeChar c, length) := by
  rw [characterEscape, scalar?_toNat, Option.map_some]

theorem padded_isEmpty (base width number : Nat) : (padded base width number).isEmpty = false := by
  simp [padded]

namespace NumericEscape

theorem read_octalByte (byte : UInt8) (rest : List Char) :
    octalByte.read (padded 8 3 byte.toNat ++ rest) =
      some ([byte], (padded 8 3 byte.toNat).length) := by
  have small : byte.toNat < 256 := byte.toNat_lt
  have fits : (Nat.toDigits 8 byte.toNat).length ≤ 3 :=
    (Nat.length_toDigits_le_iff (by omega) (by omega)).mpr (by omega)
  have digits : digitRun 8 3 (padded 8 3 byte.toNat ++ rest) = padded 8 3 byte.toNat :=
    digitRun_padded_append (by omega) (by omega) fits rest
  have number : numeral 8 (padded 8 3 byte.toNat) = byte.toNat :=
    numeral_padded (by omega) (by omega) 3 byte.toNat
  simp only [read, digits, number, padded_isEmpty, Bool.false_or, decide_eq_true_eq,
    UInt8.ofNat_toNat]
  rw [if_neg (by omega)]

theorem read_octalCharacter {c : Char} (small : c.toNat < 256) (rest : List Char) :
    octalCharacter.read (padded 8 3 c.toNat ++ rest) =
      some (String.utf8EncodeChar c, (padded 8 3 c.toNat).length) := by
  have fits : (Nat.toDigits 8 c.toNat).length ≤ 3 :=
    (Nat.length_toDigits_le_iff (by omega) (by omega)).mpr (by omega)
  have digits : digitRun 8 3 (padded 8 3 c.toNat ++ rest) = padded 8 3 c.toNat :=
    digitRun_padded_append (by omega) (by omega) fits rest
  have number : numeral 8 (padded 8 3 c.toNat) = c.toNat :=
    numeral_padded (by omega) (by omega) 3 c.toNat
  have run : octalRun (padded 8 3 c.toNat ++ rest) = padded 8 3 c.toNat := by
    rw [octalRun, digits, number, if_pos small]
  simp only [read, run, number, padded_isEmpty, Bool.false_eq_true, if_false]
  exact characterEscape_toNat c _

theorem read_hexByte {c : Char} (small : c.toNat < 256) (rest : List Char) :
    hexByte.read ('x' :: padded 16 2 c.toNat ++ rest) =
      some (String.utf8EncodeChar c, ('x' :: padded 16 2 c.toNat).length) := by
  have fits : (Nat.toDigits 16 c.toNat).length ≤ 2 :=
    (Nat.length_toDigits_le_iff (by omega) (by omega)).mpr (by omega)
  have digits : digitRun 16 2 (padded 16 2 c.toNat ++ rest) = padded 16 2 c.toNat :=
    digitRun_padded_append (by omega) (by omega) fits rest
  have length : (padded 16 2 c.toNat).length = 2 := length_padded fits
  simp only [read, List.cons_append, digits, length, if_true, List.length_cons]
  rw [numeral_padded (by omega) (by omega), characterEscape_toNat]

theorem read_hexUnit {c : Char} (small : c.toNat < 65536) (rest : List Char) :
    hexUnit.read ('u' :: padded 16 4 c.toNat ++ rest) =
      some (String.utf8EncodeChar c, ('u' :: padded 16 4 c.toNat).length) := by
  have fits : (Nat.toDigits 16 c.toNat).length ≤ 4 :=
    (Nat.length_toDigits_le_iff (by omega) (by omega)).mpr (by omega)
  have digits : digitRun 16 4 (padded 16 4 c.toNat ++ rest) = padded 16 4 c.toNat :=
    digitRun_padded_append (by omega) (by omega) fits rest
  have length : (padded 16 4 c.toNat).length = 4 := length_padded fits
  simp only [read, List.cons_append, digits, length, if_true, List.length_cons]
  rw [numeral_padded (by omega) (by omega), characterEscape_toNat]

theorem read_hexBraced (c : Char) (rest : List Char) :
    hexBraced.read ('u' :: '{' :: (Nat.toDigits 16 c.toNat ++ ['}']) ++ rest) =
      some (String.utf8EncodeChar c,
        ('u' :: '{' :: (Nat.toDigits 16 c.toNat ++ ['}'])).length) := by
  have valid : c.toNat < 0xd800 ∨ (0xdfff < c.toNat ∧ c.toNat < 0x110000) := c.valid
  have fits : (Nat.toDigits 16 c.toNat).length ≤ 6 :=
    (Nat.length_toDigits_le_iff (by omega) (by omega)).mpr (by omega)
  have digits : digitRun 16 6 (Nat.toDigits 16 c.toNat ++ '}' :: rest) =
      Nat.toDigits 16 c.toNat :=
    digitRun_append_cons (isDigitOf_toDigits (by omega) (by omega) c.toNat) fits (by decide) rest
  have present : (Nat.toDigits 16 c.toNat).isEmpty = false := by simp
  simp only [read, List.cons_append, List.append_assoc, List.nil_append, digits, present,
    List.drop_left, List.head?_cons, Bool.not_false, Bool.true_and, BEq.rfl, if_true,
    List.length_cons, List.length_append, List.length_nil]
  rw [numeral_toDigits (by omega) (by omega), characterEscape_toNat]

end NumericEscape

/-! ## Bodies between double quotes -/

namespace Dialect

/-- Characters that belong to an escape are passed over. -/
theorem readBody_skip (dialect : Dialect) (taken rest : List Char) :
    dialect.readBody taken.length (taken ++ rest) = dialect.readBody 0 rest := by
  induction taken with
  | nil => rfl
  | cons c taken ih =>
      rw [List.length_cons, List.cons_append, readBody]
      exact ih

theorem readBody_quote (dialect : Dialect) (rest : List Char) :
    dialect.readBody 0 ('"' :: rest) = some ([], rest) := rfl

/-- An escape is read as what it stands for. -/
theorem readBody_escape {dialect : Dialect} {taken rest : List Char} {bytes : List UInt8}
    (known : dialect.escape? (taken ++ rest) = some (bytes, taken.length)) :
    dialect.readBody 0 ('\\' :: (taken ++ rest)) =
      (dialect.readBody 0 rest).map (prepend bytes) := by
  rw [← readBody_skip dialect taken rest]
  simp [readBody, known]

/-- Any character but a quote, a backslash or a line break stands for itself. -/
theorem readBody_plain (dialect : Dialect) {c : Char} (notQuote : c ≠ '"')
    (notBackslash : c ≠ '\\') (notFeed : c ≠ '\n') (notReturn : c ≠ '\r') (rest : List Char) :
    dialect.readBody 0 (c :: rest) =
      (dialect.readBody 0 rest).map (prepend (String.utf8EncodeChar c)) := by
  simp [readBody, notQuote, notBackslash, notFeed, notReturn]

theorem prepend_nil : prepend [] = id := rfl

theorem prepend_append (first second : List UInt8) :
    prepend (first ++ second) = prepend first ∘ prepend second := by
  funext reading
  simp [prepend]

/-- A numeric escape of the first kind that a dialect knows is read as what it stands for. -/
theorem readBody_numeric {dialect : Dialect} {kind : NumericEscape} {others : List NumericEscape}
    (first : dialect.numeric = kind :: others) {taken rest : List Char} {bytes : List UInt8}
    (known : kind.read (taken ++ rest) = some (bytes, taken.length)) :
    dialect.readBody 0 ('\\' :: (taken ++ rest)) =
      (dialect.readBody 0 rest).map (prepend bytes) := by
  apply readBody_escape
  rw [escape?, first, List.findSome?_cons, known]
  rfl

/-- Bytes written in octal are read back. -/
theorem readBody_octalBytes {dialect : Dialect} (octal : dialect.numeric = [.octalByte])
    (bytes : List UInt8) (rest : List Char) :
    dialect.readBody 0 ((bytes.map UInt8.toNat).flatMap LiteralStyle.octalByte ++ rest) =
      (dialect.readBody 0 rest).map (prepend bytes) := by
  induction bytes with
  | nil => simp [prepend_nil]
  | cons byte bytes ih =>
      rw [List.map_cons, List.flatMap_cons, List.append_assoc, LiteralStyle.octalByte,
        List.cons_append, readBody_numeric octal (NumericEscape.read_octalByte byte _), ih,
        Option.map_map, ← prepend_append]
      rfl

end Dialect

namespace LiteralStyle

open Dialect

variable {style : LiteralStyle} {dialect : Dialect}

/-- Every style between double quotes knows the short escapes. -/
theorem escape?_short (between : style.dialect? = some dialect) {c mark : Char}
    (listed : (c, mark) ∈ shortEscapes) (rest : List Char) :
    dialect.escape? ([mark] ++ rest) = some (String.utf8EncodeChar c, [mark].length) := by
  simp only [shortEscapes, List.mem_cons, Prod.mk.injEq, List.not_mem_nil, or_false] at listed
  rcases listed with ⟨rfl, rfl⟩ | ⟨rfl, rfl⟩ | ⟨rfl, rfl⟩ | ⟨rfl, rfl⟩ | ⟨rfl, rfl⟩ <;>
    cases style <;> cases between <;> rfl

/-- A control character is read back from the form that its style gives it. -/
theorem readBody_escapeControl (between : style.dialect? = some dialect) {c : Char}
    (unprintable : isControl c = true) (rest : List Char) :
    dialect.readBody 0 (style.escapeControl c ++ rest) =
      (dialect.readBody 0 rest).map (prepend (String.utf8EncodeChar c)) := by
  have small := toNat_lt_of_isControl unprintable
  have asUnit := NumericEscape.read_hexUnit (show c.toNat < 65536 by omega) rest
  have asByte := NumericEscape.read_hexByte (show c.toNat < 256 by omega) rest
  have asOctal := NumericEscape.read_octalCharacter (show c.toNat < 256 by omega) rest
  cases style with
  | c =>
      cases between
      exact readBody_octalBytes rfl (String.utf8EncodeChar c) rest
  | go | cSharp | json =>
      cases between
      exact readBody_numeric rfl asUnit
  | python | javaScript =>
      cases between
      exact readBody_numeric rfl asByte
  | java =>
      cases between
      exact readBody_numeric rfl asOctal
  | rust =>
      cases between
      exact readBody_numeric rfl (NumericEscape.read_hexBraced c rest)
  | shell => cases between

/-- An escaped character is read back as the character. -/
theorem readBody_escapeChar (between : style.dialect? = some dialect) (previous : Option Char)
    (c : Char) (rest : List Char) :
    dialect.readBody 0 (style.escapeChar previous c ++ rest) =
      (dialect.readBody 0 rest).map (prepend (String.utf8EncodeChar c)) := by
  have shape := escaped_escapeChar style previous c
  generalize style.escapeChar previous c = written at shape
  cases shape with
  | short listed => exact readBody_escape (escape?_short between listed rest)
  | question trigraphs self doubled =>
      subst trigraphs self
      cases between
      rfl
  | separator breaks listed =>
      subst breaks
      cases between
      rcases listed with rfl | rfl <;> rfl
  | control unprintable => exact readBody_escapeControl between unprintable rest
  | plain notQuote notBackslash notFeed notReturn =>
      exact readBody_plain dialect notQuote notBackslash notFeed notReturn rest

/-- The body of a literal is read back up to the closing quote. -/
theorem readBody_escapeFrom (between : style.dialect? = some dialect) (previous : Option Char)
    (value rest : List Char) :
    dialect.readBody 0 (style.escapeFrom previous value ++ '"' :: rest) =
      some (value.flatMap String.utf8EncodeChar, rest) := by
  induction value generalizing previous with
  | nil => exact readBody_quote dialect rest
  | cons c value ih =>
      rw [escapeFrom, List.append_assoc, readBody_escapeChar between, ih]
      rfl

end LiteralStyle

/-! ## Pieces between single quotes -/

/-- Reading pieces ends at a closing quote unless another piece stands next to it. -/
theorem readPieces_end {rest : List Char} (noQuote : rest.head? ≠ some '\'')
    (noBackslash : rest.head? ≠ some '\\') : readPieces true ('\'' :: rest) = some ([], rest) := by
  rw [readPieces]
  cases rest with
  | nil => rfl
  | cons c rest =>
      rw [List.head?_cons, Ne, Option.some.injEq] at noQuote noBackslash
      rw [readPieces]
      · intro after same
        exact noQuote (List.cons.inj same).1
      · intro after same
        exact noBackslash (List.cons.inj same).1

/-- The pieces that a value is written in are read back up to the closing quote. -/
theorem readPieces_escapeSingleQuoted (value : List Char) {rest : List Char}
    (noQuote : rest.head? ≠ some '\'') (noBackslash : rest.head? ≠ some '\\') :
    readPieces true (LiteralStyle.escapeSingleQuoted value ++ '\'' :: rest) =
      some (value, rest) := by
  induction value with
  | nil => exact readPieces_end noQuote noBackslash
  | cons c value ih =>
      rw [LiteralStyle.escapeSingleQuoted] at ih ⊢
      rw [List.flatMap_cons, List.append_assoc]
      by_cases quote : c = '\''
      · subst quote
        simp only [BEq.rfl, if_true, List.cons_append, List.nil_append, readPieces, ih,
          Option.map_some]
      · rw [if_neg (by simpa using quote), List.cons_append, List.nil_append, readPieces, ih,
          Option.map_some]
        exact fun self => quote self

/-! ## Literals -/

/-- The bytes of a string's characters are the string. -/
theorem fromUTF8?_flatMap_toList (value : String) :
    String.fromUTF8? (value.toList.flatMap String.utf8EncodeChar).toByteArray = some value := by
  have bytes : (value.toList.flatMap String.utf8EncodeChar).toByteArray = value.toByteArray :=
    String.utf8Encode_toList
  rw [bytes, String.fromUTF8?, dif_pos value.isValidUTF8]
  rfl

namespace LiteralStyle

/-- What comes before reading leaves an escaped value and its quotes as they are. -/
theorem translate_escapeFrom (style : LiteralStyle) (value rest : List Char) :
    style.translate ('"' :: (style.escapeFrom none value ++ '"' :: rest)) =
      '"' :: (style.escapeFrom none value ++ '"' :: style.translate rest) := by
  cases style with
  | c =>
      rw [translate, replaceTrigraphs_cons (by decide), replaceTrigraphs_escapeFrom, translate]
  | java =>
      rw [translate, translateUnicode, translateUnicodeFrom_cons (by decide),
        translateUnicodeFrom_escapeFrom, translate, translateUnicode]
  | go | rust | python | javaScript | cSharp | json | shell => rfl

theorem read_doubleQuoted {style : LiteralStyle} {dialect : Dialect}
    (between : style.dialect? = some dialect) (value : String) (rest : List Char) :
    style.read ('"' :: (style.escapeFrom none value.toList ++ '"' :: rest)) =
      some (value, style.translate rest) := by
  simp only [read, between, translate_escapeFrom, readDoubleQuoted,
    readBody_escapeFrom between none value.toList, Option.bind_eq_bind, Option.bind_some,
    fromUTF8?_flatMap_toList]
  rfl

/-- In the shell reading ends at a closing quote that nothing is joined to. -/
theorem read_singleQuoted (value : String) {rest : List Char} (noQuote : rest.head? ≠ some '\'')
    (noBackslash : rest.head? ≠ some '\\') :
    shell.read ('\'' :: (escapeSingleQuoted value.toList ++ '\'' :: rest)) =
      some (value, rest) := by
  simp only [read, dialect?, readSingleQuoted,
    readPieces_escapeSingleQuoted value.toList noQuote noBackslash, Option.map_some,
    String.ofList_toList]

/-- Every style's reader undoes escaping: a quoted value is read back as the value, and reading
ends at the closing quote.  In the shell the text behind it must not go on with a quote or a
backslash. -/
theorem read_escape (style : LiteralStyle) (value : String) (rest : List Char)
    (ends : style = .shell → rest.head? ≠ some '\'' ∧ rest.head? ≠ some '\\') :
    style.read (style.quote :: ((style.escape value).toList ++ style.quote :: rest)) =
      some (value, style.translate rest) := by
  rw [escape, String.toList_ofList]
  cases style with
  | shell =>
      obtain ⟨noQuote, noBackslash⟩ := ends rfl
      exact read_singleQuoted value noQuote noBackslash
  | c | go | rust | python | javaScript | java | cSharp | json =>
      exact read_doubleQuoted rfl value rest

/-- Quotes, a backslash, a line break and what would be trigraphs, in front of a line break. -/
theorem read_escape_shell_nested :
    ("\n".toList.head? ≠ some '\'' ∧ "\n".toList.head? ≠ some '\\') ∧
      shell.read
          ('\'' :: ((shell.escape "it's a \\ \"??=\"\n").toList ++ '\'' :: "\n".toList)) =
        some ("it's a \\ \"??=\"\n", "\n".toList) :=
  ⟨by decide, read_escape .shell _ _ fun _ => by decide⟩

end LiteralStyle

end Imprint
