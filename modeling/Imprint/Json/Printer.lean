import Imprint.Json.Value
import Imprint.Text.Numeral

/-!
# Writing JSON

Values are written without any white space, or with one member to a line, indented by two spaces
a level.
-/

namespace Imprint.Json

open Text

/-- A character inside a string. -/
def escapeChar (c : Char) : List Char :=
  if c == '"' then ['\\', '"']
  else if c == '\\' then ['\\', '\\']
  else if c == '\x08' then ['\\', 'b']
  else if c == '\x0c' then ['\\', 'f']
  else if c == '\n' then ['\\', 'n']
  else if c == '\r' then ['\\', 'r']
  else if c == '\t' then ['\\', 't']
  else if c.toNat < 0x20 then '\\' :: 'u' :: padded 16 4 c.toNat
  else [c]

/-- A string between its quotes. -/
def quoted (text : String) : List Char := '"' :: (text.toList.flatMap escapeChar ++ ['"'])

/-- A line break and the indentation of a level. -/
def lineBreak (level : Nat) : List Char := '\n' :: List.replicate (2 * level) ' '

mutual

/-- A value without white space. -/
def compactChars : Value → List Char
  | .null => ['n', 'u', 'l', 'l']
  | .boolean true => ['t', 'r', 'u', 'e']
  | .boolean false => ['f', 'a', 'l', 's', 'e']
  | .number spelling => spelling.toList
  | .string text => quoted (text.getD "")
  | .array items => '[' :: (compactItems items ++ [']'])
  | .object members => '{' :: (compactMembers members ++ ['}'])

/-- Values with commas between them. -/
def compactItems : List Value → List Char
  | [] => []
  | [item] => compactChars item
  | item :: next :: items => compactChars item ++ ',' :: compactItems (next :: items)

/-- Members with commas between them. -/
def compactMembers : List (Option String × Value) → List Char
  | [] => []
  | [(key, member)] => quoted (key.getD "") ++ ':' :: compactChars member
  | (key, member) :: next :: members =>
      quoted (key.getD "") ++ ':' :: compactChars member ++ ',' :: compactMembers (next :: members)

end

mutual

/-- A value at a level of indentation. -/
def prettyChars (level : Nat) : Value → List Char
  | .null => ['n', 'u', 'l', 'l']
  | .boolean true => ['t', 'r', 'u', 'e']
  | .boolean false => ['f', 'a', 'l', 's', 'e']
  | .number spelling => spelling.toList
  | .string text => quoted (text.getD "")
  | .array [] => ['[', ']']
  | .array (item :: items) =>
      '[' :: (prettyItems (level + 1) (item :: items) ++ lineBreak level ++ [']'])
  | .object [] => ['{', '}']
  | .object (member :: members) =>
      '{' :: (prettyMembers (level + 1) (member :: members) ++ lineBreak level ++ ['}'])

/-- Values on lines of their own. -/
def prettyItems (level : Nat) : List Value → List Char
  | [] => []
  | [item] => lineBreak level ++ prettyChars level item
  | item :: next :: items =>
      lineBreak level ++ prettyChars level item ++ ',' :: prettyItems level (next :: items)

/-- Members on lines of their own. -/
def prettyMembers (level : Nat) : List (Option String × Value) → List Char
  | [] => []
  | [(key, member)] =>
      lineBreak level ++ quoted (key.getD "") ++ ':' :: ' ' :: prettyChars level member
  | (key, member) :: next :: members =>
      lineBreak level ++ quoted (key.getD "") ++ ':' :: ' ' :: prettyChars level member ++
        ',' :: prettyMembers level (next :: members)

end

namespace Value

/-- The text of a value without white space. -/
def compact (value : Value) : String := String.ofList (compactChars value)

/-- The text of a value with one member to a line. -/
def pretty (value : Value) : String := String.ofList (prettyChars 0 value)

/-- An object with the given members. -/
def ofEntries (entries : List (String × Value)) : Value :=
  .object (entries.map fun (key, member) => (some key, member))

/-- A string. -/
def ofString (text : String) : Value := .string (some text)

end Value

end Imprint.Json
