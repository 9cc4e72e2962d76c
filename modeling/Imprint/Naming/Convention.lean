import Imprint.Error
import Imprint.Text.Blank
import Imprint.Text.LetterCase

/-!
# Naming conventions

The five ways of joining words to an identifier, and how they and the two descriptor names are
read from settings and manifests.
-/

namespace Imprint

open Text

/-- A way of joining words to an identifier. -/
inductive Convention where
  | snake
  | camel
  | pascal
  | kebab
  | screaming
  deriving DecidableEq

namespace Convention

/-- Every convention. -/
def all : List Convention := [.snake, .camel, .pascal, .kebab, .screaming]

/-- The name of a convention, written in its own way. -/
def name : Convention → String
  | .snake => "snake_case"
  | .camel => "camelCase"
  | .pascal => "PascalCase"
  | .kebab => "kebab-case"
  | .screaming => "SCREAMING_SNAKE"

/-- The convention with the given name.  Case and surrounding white space do not matter, and each
convention has short names. -/
def parse (text : String) : Except Error Convention :=
  match asciiLower (trimmed text) with
  | "snake_case" | "snake" | "snakecase" => .ok .snake
  | "camelcase" | "camel" | "camel_case" | "lower_camel" => .ok .camel
  | "pascalcase" | "pascal" | "pascal_case" | "upper_camel" => .ok .pascal
  | "kebab-case" | "kebab" | "kebabcase" => .ok .kebab
  | "screaming_snake" | "screaming" | "screaming_snake_case" | "upper_snake" | "constant" =>
      .ok .screaming
  | _ => .error (.unsupportedConvention text)

/-- Whether identifiers hold hyphens. -/
def isHyphenated (convention : Convention) : Bool := convention == .kebab

@[simp]
theorem mem_all (convention : Convention) : convention ∈ all := by
  cases convention <;> decide

end Convention

/-- The descriptor name that a text gives, with hyphens or underscores. -/
def DescriptorName.parse (text : String) : Except Error DescriptorName :=
  let folded := (asciiLower (trimmed text)).toList.map fun c => if c == '-' then '_' else c
  match String.ofList folded with
  | "smart" | "commit_smart" => .ok .smart
  | "tag_or_branch" | "commit_tag_or_branch" => .ok .tagOrBranch
  | _ => .error (.unknownField text)

end Imprint
