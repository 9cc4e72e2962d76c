import Imprint.Naming.Convention

/-!
# Literal styles

The families of string literals that values are written in, and the lexical shape that goes with
each: quotes, comments and whether a backslash escapes inside a literal.
-/

namespace Imprint

open Text

/-- A family of string literals. -/
inductive LiteralStyle where
  | c
  | go
  | rust
  | python
  | javaScript
  | java
  | cSharp
  | json
  | shell
  deriving DecidableEq

/-- How literals and comments are delimited in a language. -/
structure Lexicon where
  quotes : List Char
  lineComments : List String
  blockComment : Option (String × String)
  escapesInQuotes : Bool
  deriving DecidableEq

namespace LiteralStyle

/-- Every style. -/
def all : List LiteralStyle :=
  [.c, .go, .rust, .python, .javaScript, .java, .cSharp, .json, .shell]

/-- The name of a style in manifests. -/
def name : LiteralStyle → String
  | .c => "c"
  | .go => "go"
  | .rust => "rust"
  | .python => "python"
  | .javaScript => "javascript"
  | .java => "java"
  | .cSharp => "csharp"
  | .json => "json"
  | .shell => "shell"

/-- The style that a manifest names.  Case and surrounding white space do not matter. -/
def parse (text : String) : Except Error LiteralStyle :=
  match asciiLower (trimmed text) with
  | "c" | "cpp" => .ok .c
  | "go" | "golang" => .ok .go
  | "rust" | "rs" => .ok .rust
  | "python" | "py" => .ok .python
  | "javascript" | "js" | "typescript" | "ts" => .ok .javaScript
  | "java" => .ok .java
  | "csharp" | "c#" | "cs" => .ok .cSharp
  | "json" => .ok .json
  | "shell" | "sh" | "bash" | "shell-single" => .ok .shell
  | other => .error (.invalidTemplate (.unknownEscapeStyle other))

/-- Slashes and stars open comments, and a backslash escapes. -/
def slashLexicon (quotes : List Char) : Lexicon := ⟨quotes, ["//"], some ("/*", "*/"), true⟩

/-- The lexical shape of the languages that use a style.  In two of them a single quote or a
grave accent has a meaning of its own: it opens no literal in the first and a raw one in the
second. -/
def lexicon : LiteralStyle → Lexicon
  | .c | .java | .cSharp => slashLexicon ['"', '\'']
  | .rust => slashLexicon ['"']
  | .go => slashLexicon ['"', '\x60']
  | .javaScript => slashLexicon ['"', '\'', '\x60']
  | .python => ⟨['"', '\''], ["#"], none, true⟩
  | .json => ⟨['"'], [], none, true⟩
  | .shell => ⟨['\''], ["#"], none, false⟩

@[simp]
theorem mem_all (style : LiteralStyle) : style ∈ all := by
  cases style <;> decide

end LiteralStyle

end Imprint
