import Imprint.Literal.Style
import Imprint.Text.Letter
import Imprint.Text.Numeral

/-!
# Escaping values

Each style writes a value so that it can stand between the quotes of a literal.  Quotes, the
backslash and control characters are escaped; everything else is written as it is.
-/

namespace Imprint

open Text

namespace LiteralStyle

/-- A byte as a backslash and three octal digits. -/
def octalByte (byte : Nat) : List Char := '\\' :: padded 8 3 byte

/-- The bytes of a character's UTF-8 encoding. -/
def utf8Bytes (c : Char) : List Nat := (String.utf8EncodeChar c).map UInt8.toNat

/-- A control character without a short escape. -/
def escapeControl (style : LiteralStyle) (c : Char) : List Char :=
  match style with
  | .c => (utf8Bytes c).flatMap octalByte
  | .java => octalByte c.toNat
  | .python | .javaScript => '\\' :: 'x' :: padded 16 2 c.toNat
  | .rust => '\\' :: 'u' :: '{' :: (Nat.toDigits 16 c.toNat ++ ['}'])
  | .go | .cSharp | .json => '\\' :: 'u' :: padded 16 4 c.toNat
  | .shell => [c]

/-- A character inside double quotes, given the character before it.  The second of two question
marks is escaped in the style where the two would begin a trigraph, and line separators in the
style where they end a line. -/
def escapeChar (style : LiteralStyle) (previous : Option Char) (c : Char) : List Char :=
  if c == '\\' then ['\\', '\\']
  else if c == '"' then ['\\', '"']
  else if c == '\n' then ['\\', 'n']
  else if c == '\r' then ['\\', 'r']
  else if c == '\t' then ['\\', 't']
  else if c == '?' && style == .c && previous == some '?' then ['\\', '?']
  else if (c == '\u2028' || c == '\u2029') && style == .javaScript then
    '\\' :: 'u' :: (padded 16 4 c.toNat).map Char.toUpper
  else if isControl c then style.escapeControl c
  else [c]

/-- A text inside double quotes, given the character before it. -/
def escapeFrom (style : LiteralStyle) : Option Char → List Char → List Char
  | _, [] => []
  | previous, head :: rest =>
      style.escapeChar previous head ++ style.escapeFrom (some head) rest

/-- A text inside single quotes: a quote closes the literal, stands escaped on its own and opens
the next one. -/
def escapeSingleQuoted (text : List Char) : List Char :=
  text.flatMap fun c => if c == '\'' then ['\'', '\\', '\'', '\''] else [c]

/-- The characters that write a value between the quotes of a literal. -/
def escapeChars (style : LiteralStyle) (text : List Char) : List Char :=
  match style with
  | .shell => escapeSingleQuoted text
  | _ => style.escapeFrom none text

/-- A value written for the inside of a literal. -/
def escape (style : LiteralStyle) (value : String) : String :=
  String.ofList (style.escapeChars value.toList)

end LiteralStyle

end Imprint
