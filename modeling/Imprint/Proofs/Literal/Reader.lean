import Imprint.Proofs.Literal.Shape
import Imprint.Proofs.Text.Numeral

/-!
# Reading literals

How each language reads a literal of its style: what it does to the text before it looks for
literals, which escapes it knows, and where the literal ends.  A literal between double quotes
stands for bytes.  A character stands for its UTF-8 encoding, and an octal escape of C for a single
byte.  These readers know nothing of how values are escaped.
-/

namespace Imprint

open Text

/-- The escapes that name a character or a byte by its number. -/
inductive NumericEscape where
  | octalByte
  | octalCharacter
  | hexByte
  | hexUnit
  | hexBraced
  deriving DecidableEq

/-- What an escape stands for, and the length of the text behind the backslash that it takes. -/
abbrev Escape := List UInt8 × Nat

/-- An escape of some length for the character with a number, if there is one. -/
def characterEscape (code length : Nat) : Option Escape :=
  (scalar? code).map fun c => (String.utf8EncodeChar c, length)

/-- The octal digits of a character: three at most, and two if three would be too large. -/
def octalRun (text : List Char) : List Char :=
  if numeral 8 (digitRun 8 3 text) < 256 then digitRun 8 3 text else digitRun 8 2 text

/-- The numeric escape of a kind at the front of a text, behind its backslash. -/
def NumericEscape.read : NumericEscape → List Char → Option Escape
  | .octalByte, text =>
      let digits := digitRun 8 3 text
      if digits.isEmpty || 256 ≤ numeral 8 digits then none
      else some ([UInt8.ofNat (numeral 8 digits)], digits.length)
  | .octalCharacter, text =>
      let digits := octalRun text
      if digits.isEmpty then none else characterEscape (numeral 8 digits) digits.length
  | .hexByte, 'x' :: text =>
      let digits := digitRun 16 2 text
      if digits.length = 2 then characterEscape (numeral 16 digits) 3 else none
  | .hexUnit, 'u' :: text =>
      let digits := digitRun 16 4 text
      if digits.length = 4 then characterEscape (numeral 16 digits) 5 else none
  | .hexBraced, 'u' :: '{' :: text =>
      let digits := digitRun 16 6 text
      if !digits.isEmpty && (text.drop digits.length).head? == some '}' then
        characterEscape (numeral 16 digits) (digits.length + 3)
      else none
  | _, _ => none

/-- The escapes of a language: numeric ones, and single marks with the characters that they stand
for. -/
structure Dialect where
  numeric : List NumericEscape
  simple : List (Char × Char)
  deriving DecidableEq

namespace Dialect

/-- The escape at the front of a text, behind its backslash. -/
def escape? (dialect : Dialect) (text : List Char) : Option Escape :=
  (dialect.numeric.findSome? (·.read text)).or
    ((text.head?.bind fun mark => dialect.simple.lookup mark).map fun c =>
      (String.utf8EncodeChar c, 1))

/-- A reading with bytes before those that it gives. -/
def prepend (bytes : List UInt8) (reading : List UInt8 × List Char) : List UInt8 × List Char :=
  (bytes ++ reading.1, reading.2)

/-- The bytes of a literal whose opening quote has been read, and the text after its closing
quote; the first `skip` characters belong to an escape that has been read.  A raw line break ends
no literal. -/
def readBody (dialect : Dialect) : Nat → List Char → Option (List UInt8 × List Char)
  | _, [] => none
  | skip + 1, _ :: rest => dialect.readBody skip rest
  | 0, c :: rest =>
      if c == '"' then some ([], rest)
      else if c == '\n' || c == '\r' then none
      else if c == '\\' then
        match dialect.escape? rest with
        | some (bytes, length) => (dialect.readBody length rest).map (prepend bytes)
        | none => none
      else (dialect.readBody 0 rest).map (prepend (String.utf8EncodeChar c))

end Dialect

/-! ## Before literals are read -/

/-- The character that a trigraph with the given third character stands for. -/
def trigraph? : Char → Option Char
  | '=' => some '#'
  | '/' => some '\\'
  | '\'' => some '^'
  | '(' => some '['
  | ')' => some ']'
  | '!' => some '|'
  | '<' => some '{'
  | '>' => some '}'
  | '-' => some '~'
  | _ => none

/-- A text with its trigraphs replaced. -/
def replaceTrigraphs : List Char → List Char
  | '?' :: '?' :: c :: rest =>
      match trigraph? c with
      | some replaced => replaced :: replaceTrigraphs rest
      | none => '?' :: replaceTrigraphs ('?' :: c :: rest)
  | c :: rest => c :: replaceTrigraphs rest
  | [] => []

/-- The character of a Unicode escape whose backslash has been read, and the length of the text
that it takes: one mark or several, then four digits. -/
def unicodeEscape? (text : List Char) : Option (Char × Nat) :=
  let marks := text.takeWhile (· == 'u')
  let digits := digitRun 16 4 (text.drop marks.length)
  if !marks.isEmpty && digits.length == 4 then
    (scalar? (numeral 16 digits)).map fun c => (c, marks.length + 4)
  else none

/-- A text with its Unicode escapes translated.  A backslash can begin one only if the number of
backslashes before it is even; `odd` tells whether it is not.  An escape that is malformed, or half
of a surrogate pair, is left as it stands. -/
def translateUnicodeFrom : Nat → Bool → List Char → List Char
  | _, _, [] => []
  | skip + 1, odd, _ :: rest => translateUnicodeFrom skip odd rest
  | 0, odd, c :: rest =>
      if c == '\\' && !odd then
        match unicodeEscape? rest with
        | some (character, length) => character :: translateUnicodeFrom length false rest
        | none => c :: translateUnicodeFrom 0 true rest
      else c :: translateUnicodeFrom 0 false rest

/-- A text with its Unicode escapes translated. -/
def translateUnicode (text : List Char) : List Char := translateUnicodeFrom 0 false text

/-! ## Literals -/

/-- The characters of single-quoted pieces and escaped single quotes that stand side by side, and
the text after them; `quoted` tells whether a piece is open. -/
def readPieces : Bool → List Char → Option (List Char × List Char)
  | true, [] => none
  | true, '\'' :: rest => readPieces false rest
  | true, c :: rest => (readPieces true rest).map fun (chars, after) => (c :: chars, after)
  | false, '\'' :: rest => readPieces true rest
  | false, '\\' :: '\'' :: rest =>
      (readPieces false rest).map fun (chars, after) => ('\'' :: chars, after)
  | false, rest => some ([], rest)

namespace LiteralStyle

/-- What the language of a style does to a text before it reads literals. -/
def translate : LiteralStyle → List Char → List Char
  | .c, text => replaceTrigraphs text
  | .java, text => translateUnicode text
  | _, text => text

/-- The escapes of a style between double quotes. -/
def dialect? : LiteralStyle → Option Dialect
  | .c =>
      some ⟨[.octalByte],
        [('\\', '\\'), ('"', '"'), ('?', '?'), ('n', '\n'), ('r', '\r'), ('t', '\t')]⟩
  | .go =>
      some ⟨[.hexUnit],
        [('\\', '\\'), ('"', '"'), ('a', '\x07'), ('b', '\x08'), ('f', '\x0c'), ('n', '\n'),
         ('r', '\r'), ('t', '\t'), ('v', '\x0b')]⟩
  | .rust =>
      some ⟨[.hexBraced],
        [('\\', '\\'), ('"', '"'), ('\'', '\''), ('n', '\n'), ('r', '\r'), ('t', '\t'),
         ('0', '\x00')]⟩
  | .python =>
      some ⟨[.hexByte],
        [('\\', '\\'), ('"', '"'), ('\'', '\''), ('a', '\x07'), ('b', '\x08'), ('f', '\x0c'),
         ('n', '\n'), ('r', '\r'), ('t', '\t'), ('v', '\x0b')]⟩
  | .javaScript =>
      some ⟨[.hexByte, .hexUnit],
        [('\\', '\\'), ('"', '"'), ('\'', '\''), ('b', '\x08'), ('f', '\x0c'), ('n', '\n'),
         ('r', '\r'), ('t', '\t'), ('v', '\x0b')]⟩
  | .java =>
      some ⟨[.octalCharacter],
        [('\\', '\\'), ('"', '"'), ('\'', '\''), ('b', '\x08'), ('f', '\x0c'), ('n', '\n'),
         ('r', '\r'), ('s', ' '), ('t', '\t')]⟩
  | .cSharp =>
      some ⟨[.hexUnit],
        [('\\', '\\'), ('"', '"'), ('\'', '\''), ('0', '\x00'), ('a', '\x07'), ('b', '\x08'),
         ('f', '\x0c'), ('n', '\n'), ('r', '\r'), ('t', '\t'), ('v', '\x0b')]⟩
  | .json =>
      some ⟨[.hexUnit],
        [('\\', '\\'), ('"', '"'), ('/', '/'), ('b', '\x08'), ('f', '\x0c'), ('n', '\n'),
         ('r', '\r'), ('t', '\t')]⟩
  | .shell => none

/-- The literal between double quotes at the front of a text. -/
def readDoubleQuoted (dialect : Dialect) : List Char → Option (String × List Char)
  | '"' :: body => do
      let (bytes, rest) ← dialect.readBody 0 body
      let value ← String.fromUTF8? bytes.toByteArray
      return (value, rest)
  | _ => none

/-- The literal between single quotes at the front of a text. -/
def readSingleQuoted : List Char → Option (String × List Char)
  | '\'' :: body => (readPieces true body).map fun (chars, rest) => (String.ofList chars, rest)
  | _ => none

/-- The value of the literal at the front of a text, and what follows the literal. -/
def read (style : LiteralStyle) (text : List Char) : Option (String × List Char) :=
  match style.dialect? with
  | some dialect => readDoubleQuoted dialect (style.translate text)
  | none => readSingleQuoted text

end LiteralStyle

end Imprint
