import Imprint.Text.Numeral

/-!
# Writing strings and arrays

A string is written in the first of four ways that shows it as it is: between double quotes,
between single quotes, or over several lines in either of them.  A string that none of them can
show is written with escapes.
-/

namespace Imprint.Toml

open Text

/-- The length of the longest run of a character. -/
def longestRun (mark : Char) : Nat → List Char → Nat
  | count, [] => count
  | count, c :: rest =>
      if c == mark then longestRun mark (count + 1) rest else max count (longestRun mark 0 rest)

/-- Control characters, which a string cannot hold as they are; tabulators and line breaks do
not count. -/
def isUnprintable (c : Char) : Bool :=
  (c.toNat < 0x20 && c != '\t' && c != '\n') || c == '\x7f'

/-- The ways of writing a string. -/
inductive StringForm where
  | basic
  | literal
  | basicLines
  | literalLines
  deriving DecidableEq

namespace StringForm

/-- Whether a form goes over several lines. -/
def isMultiline : StringForm → Bool
  | .basic | .literal => false
  | .basicLines | .literalLines => true

/-- The quotes at both ends. -/
def delimiter : StringForm → List Char
  | .basic => ['"']
  | .literal => ['\'']
  | .basicLines => ['"', '"', '"']
  | .literalLines => ['\'', '\'', '\'']

/-- Whether a form shows a text without any escape. -/
def shows (text : List Char) : StringForm → Bool
  | .basic =>
      !text.any isUnprintable && !text.contains '\\' && !text.contains '"' && !text.contains '\n'
  | .literal => !text.any isUnprintable && !text.contains '\'' && !text.contains '\n'
  | .basicLines => !text.any isUnprintable && !text.contains '\\' && longestRun '"' 0 text ≤ 2
  | .literalLines => !text.any isUnprintable && longestRun '\'' 0 text ≤ 2

/-- The form in which a text is written. -/
def ofText (text : List Char) : StringForm :=
  let forms := [basic, literal, basicLines, literalLines]
  (forms.find? (shows text)).getD (if text.contains '\n' then basicLines else basic)

end StringForm

/-- A character between double quotes. -/
def escapeChar (multiline : Bool) (c : Char) : List Char :=
  if c == '\x08' then ['\\', 'b']
  else if c == '\t' then ['\\', 't']
  else if c == '\n' then (if multiline then ['\n'] else ['\\', 'n'])
  else if c == '\x0c' then ['\\', 'f']
  else if c == '\r' then ['\\', 'r']
  else if c == '\\' then ['\\', '\\']
  else if isUnprintable c then '\\' :: 'u' :: (padded 16 4 c.toNat).map Char.toUpper
  else [c]

/-- A text between double quotes.  Of a run of quotes as many stay as they are as the form allows,
and `quotes` counts those before the text. -/
def escapeFrom (multiline : Bool) : Nat → List Char → List Char
  | _, [] => []
  | quotes, c :: rest =>
      if c == '"' then
        if quotes < (if multiline then 2 else 0) then '"' :: escapeFrom multiline (quotes + 1) rest
        else '\\' :: '"' :: escapeFrom multiline 0 rest
      else escapeChar multiline c ++ escapeFrom multiline 0 rest

/-- A text in a given form. -/
def written (form : StringForm) (text : List Char) : List Char :=
  let lineBreak := if form.isMultiline && text.contains '\n' then ['\n'] else []
  let body := match form with
    | .literal | .literalLines => text
    | .basic | .basicLines => escapeFrom form.isMultiline 0 text
  form.delimiter ++ lineBreak ++ body ++ form.delimiter

/-- A string in its form. -/
def quoted (text : String) : String :=
  String.ofList (written (StringForm.ofText text.toList) text.toList)

/-- An array of strings: on one line if there is at most one, else each on a line of its own. -/
def quotedArray : List String → String
  | [] => "[]"
  | [text] => "[" ++ quoted text ++ "]"
  | texts => "[\n" ++ String.join (texts.map fun text => "    " ++ quoted text ++ ",\n") ++ "]"

end Imprint.Toml
