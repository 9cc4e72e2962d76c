import Imprint.Toml.Scalar

/-!
# Statements

A document is a list of statements: an assignment of a value to a key, or a heading that opens a
table or a further element of an array of tables.  Inline tables are assembled here, since their
assignments follow one rule with those of the document.
-/

namespace Imprint.Toml

open Text

/-- The keys from an outer table to a value. -/
abbrev KeyPath := List String

/-- How a table came about: under its own heading, on the way to another heading, or through a
dotted key. -/
inductive Origin where
  | heading
  | passage
  | dotted
  deriving DecidableEq

/-- A document in the making. -/
inductive Node where
  | leaf (content : Value)
  | table (origin : Origin) (entries : List (String × Node))
  | tables (elements : List (List (String × Node)))

/-- The entries of a table in the making. -/
abbrev Entries := List (String × Node)

namespace Entries

/-- The entries with another node under a key that is there. -/
def replace (entries : Entries) (key : String) (node : Node) : Entries :=
  entries.map fun entry => if entry.1 == key then (key, node) else entry

/-- The entries with one more value.  Tables on a dotted path are created or entered, but not one
that a heading has opened; the last of them must owe itself to dotted keys. -/
def assign (content : Value) (isOpen : Bool) : KeyPath → Entries → Option Entries
  | [], _ => none
  | [key], entries =>
      if isOpen && (entries.lookup key).isNone then some (entries ++ [(key, .leaf content)])
      else none
  | key :: next :: path, entries =>
      match entries.lookup key with
      | none =>
          (assign content true (next :: path) []).map fun inner =>
            entries ++ [(key, .table .dotted inner)]
      | some (.table .dotted inner) =>
          (assign content true (next :: path) inner).map fun inner =>
            replace entries key (.table .dotted inner)
      | some (.table .passage inner) =>
          (assign content false (next :: path) inner).map fun inner =>
            replace entries key (.table .passage inner)
      | some _ => none

end Entries

mutual

/-- The finished value of a node. -/
def Node.toValue : Node → Value
  | .leaf content => content
  | .table _ entries => .table (Entries.toTable entries)
  | .tables elements => .array (Entries.toTables elements)

/-- The finished entries of a table. -/
def Entries.toTable : List (String × Node) → Table
  | [] => []
  | (key, node) :: rest => (key, node.toValue) :: Entries.toTable rest

/-- The finished elements of an array of tables. -/
def Entries.toTables : List (List (String × Node)) → List Value
  | [] => []
  | entries :: rest => .table (Entries.toTable entries) :: Entries.toTables rest

end

/-- The table of some assignments. -/
def assemble (assignments : List (KeyPath × Value)) : Option Table :=
  (assignments.foldlM
    (fun (entries : Entries) (path, content) => Entries.assign content true path entries)
    []).map Entries.toTable

/-- One line of a document. -/
inductive Statement where
  | assign (path : KeyPath) (content : Value)
  | heading (path : KeyPath)
  | element (path : KeyPath)

/-! ## Reading -/

/-- The text after white space, line breaks and comments. -/
def skipTrivia (inComment : Bool) : List Char → Option (List Char)
  | [] => some []
  | '\n' :: rest => skipTrivia false rest
  | '\r' :: '\n' :: rest => skipTrivia false rest
  | c :: rest =>
      if inComment then (if isPlain c then skipTrivia true rest else none)
      else if isSpace c then skipTrivia false rest
      else if c == '#' then skipTrivia true rest
      else some (c :: rest)

/-- The text after white space on the same line. -/
def skipSpace (text : List Char) : List Char := text.dropWhile isSpace

/-- The text after the end of a line, before which only white space and a comment may stand. -/
def lineEnd? (text : List Char) : Option (List Char) :=
  let rest := skipSpace text
  let rest := if rest.head? == some '#' then rest.dropWhile isPlain else rest
  match rest with
  | [] => some []
  | '\n' :: rest => some rest
  | '\r' :: '\n' :: rest => some rest
  | _ => none

/-- Characters of keys without quotes. -/
def isBare (c : Char) : Bool := c.isAlphanum || c == '_' || c == '-'

/-- One key and the rest of the text. -/
def simpleKey? (text : List Char) : Option (String × List Char) :=
  match text.takeWhile isBare with
  | [] => (simpleString? text).map fun read => (String.ofList read.1, read.2)
  | bare => some (String.ofList bare, text.dropWhile isBare)

/-- A dotted key and the rest of the text, after at most `fuel` dots. -/
def keyPath? : Nat → List Char → Option (KeyPath × List Char)
  | 0, _ => none
  | fuel + 1, text => do
      let (key, rest) ← simpleKey? (skipSpace text)
      match skipSpace rest with
      | '.' :: rest => do
          let (path, rest) ← keyPath? fuel rest
          some (key :: path, rest)
      | rest => some ([key], rest)

mutual

/-- A value and the rest of the text. -/
def value? : Nat → List Char → Option (Value × List Char)
  | 0, _ => none
  | fuel + 1, text =>
      match text with
      | '[' :: rest => do
          let (items, rest) ← items? fuel (← skipTrivia false rest)
          some (.array items, rest)
      | '{' :: rest => do
          let (assignments, rest) ← members? fuel (← skipTrivia false rest)
          some (.table (← assemble assignments), rest)
      | '"' :: _ | '\'' :: _ =>
          (string? text).map fun read => (.string (String.ofList read.1), read.2)
      | _ =>
          let (word, rest) := splitWord text
          (wordValue? word).map fun content => (content, rest)

/-- The values of an array, after its opening bracket or a comma. -/
def items? : Nat → List Char → Option (List Value × List Char)
  | 0, _ => none
  | fuel + 1, text =>
      match text with
      | ']' :: rest => some ([], rest)
      | _ => do
          let (item, rest) ← value? fuel text
          match ← skipTrivia false rest with
          | ']' :: rest => some ([item], rest)
          | ',' :: rest => do
              let (items, rest) ← items? fuel (← skipTrivia false rest)
              some (item :: items, rest)
          | _ => none

/-- The assignments of an inline table, after its opening brace or a comma. -/
def members? : Nat → List Char → Option (List (KeyPath × Value) × List Char)
  | 0, _ => none
  | fuel + 1, text =>
      match text with
      | '}' :: rest => some ([], rest)
      | _ => do
          let (path, rest) ← keyPath? (text.length + 1) text
          let rest ← expect? '=' rest
          let (content, rest) ← value? fuel (skipSpace rest)
          match ← skipTrivia false rest with
          | '}' :: rest => some ([(path, content)], rest)
          | ',' :: rest => do
              let (assignments, rest) ← members? fuel (← skipTrivia false rest)
              some ((path, content) :: assignments, rest)
          | _ => none

end

/-- The heading after its opening brackets and the rest of the text. -/
def heading? (closing : List Char) (text : List Char) : Option (KeyPath × List Char) := do
  let (path, rest) ← keyPath? (text.length + 1) text
  if closing.isPrefixOf rest then some (path, rest.drop closing.length) else none

/-- The statement at the head of a line that is not empty, and the rest of the text. -/
def statement? (text : List Char) : Option (Statement × List Char) :=
  match text with
  | '[' :: '[' :: rest =>
      (heading? [']', ']'] rest).map fun (path, rest) => (.element path, rest)
  | '[' :: rest => (heading? [']'] rest).map fun (path, rest) => (.heading path, rest)
  | _ => do
      let (path, rest) ← keyPath? (text.length + 1) text
      let rest ← expect? '=' rest
      let (content, rest) ← value? (2 * rest.length + 2) (skipSpace rest)
      some (.assign path content, rest)

/-- The statements of a text of at most `fuel` lines. -/
def statements? : Nat → List Char → Option (List Statement)
  | 0, _ => none
  | fuel + 1, text => do
      match ← skipTrivia false text with
      | [] => some []
      | text =>
          let (statement, rest) ← statement? text
          let rest ← lineEnd? rest
          let statements ← statements? fuel rest
          some (statement :: statements)

end Imprint.Toml
