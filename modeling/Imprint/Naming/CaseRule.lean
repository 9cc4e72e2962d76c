import Imprint.Naming.Convention

/-!
# Case rules

A case rule joins words to an identifier: it cases the first word in one way and the others in
another, with or without a separator between them.
-/

namespace Imprint

open Text

/-- How the letters of one word are cased. -/
inductive WordCase where
  | lower
  | upper
  | capitalized
  deriving DecidableEq

/-- A word in the given case.  A capitalized word keeps its first character's uppercase form and
lowercases the remainder as a text of its own. -/
def WordCase.apply : WordCase → List Char → List Char
  | .lower, word => Text.lower word
  | .upper, word => Text.upper word
  | .capitalized, [] => []
  | .capitalized, first :: rest => upperChar first ++ Text.lower rest

/-- How words are cased and joined. -/
structure CaseRule where
  separator : Option Char
  first : WordCase
  rest : WordCase
  deriving DecidableEq

namespace CaseRule

/-- The words after the first, each with the separator before it. -/
def joinRest (rule : CaseRule) (words : List (List Char)) : List Char :=
  words.flatMap fun word => rule.separator.toList ++ rule.rest.apply word

/-- The words joined to one identifier. -/
def join (rule : CaseRule) : List (List Char) → List Char
  | [] => []
  | word :: words => rule.first.apply word ++ rule.joinRest words

/-- The words joined to one identifier. -/
def apply (rule : CaseRule) (words : List String) : String :=
  String.ofList (rule.join (words.map String.toList))

/-- The rule that defines a convention. -/
def standard : Convention → CaseRule
  | .snake => ⟨some '_', .lower, .lower⟩
  | .screaming => ⟨some '_', .upper, .upper⟩
  | .kebab => ⟨some '-', .lower, .lower⟩
  | .camel => ⟨none, .lower, .capitalized⟩
  | .pascal => ⟨none, .capitalized, .capitalized⟩

end CaseRule

end Imprint
