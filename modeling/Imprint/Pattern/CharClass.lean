import Imprint.Text.Blank
import Imprint.Text.CaseFolding
import Imprint.Text.Letter
import Imprint.Text.Script

/-!
# Character classes

Sets of characters by name: the short classes behind a backslash, the named classes of the first
128 characters, and properties of the Unicode character database.
-/

namespace Imprint

open Text

/-- A set of characters. -/
abbrev CharClass := Char → Bool

namespace CharClass

/-- The characters outside a set. -/
def complement (accepts : CharClass) : CharClass := fun c => !accepts c

/-- The characters that differ from a member in case only. -/
def foldCase (accepts : CharClass) : CharClass := fun c => (caseVariants c).any accepts

/-- The characters of a set, or those outside it. -/
def negateIf (negated : Bool) (accepts : CharClass) : CharClass :=
  if negated then accepts.complement else accepts

/-- The characters of a set, with their case variants if asked for. -/
def foldIf (folded : Bool) (accepts : CharClass) : CharClass :=
  if folded then accepts.foldCase else accepts

/-- The characters between two characters. -/
def between (first last : Char) : CharClass := fun c => first ≤ c && c ≤ last

/-- The characters of any of the sets. -/
def union (sets : List CharClass) : CharClass := fun c => sets.any (· c)

/-- Word characters among the first 128. -/
def asciiWord : CharClass := fun c => c.isAlphanum || c == '_'

/-- White space among the first 128 characters. -/
def asciiBlank : CharClass := fun c => c == ' ' || ('\t' ≤ c && c ≤ '\r')

/-- The class that a letter behind a backslash stands for. -/
def short? (unicode : Bool) : Char → Option CharClass
  | 'd' => some (if unicode then isDecimalDigit else Char.isDigit)
  | 's' => some (if unicode then isBlank else asciiBlank)
  | 'w' => some (if unicode then isWordCharacter else asciiWord)
  | _ => none

/-- The named classes of the first 128 characters. -/
def ascii? : String → Option CharClass
  | "alnum" => some Char.isAlphanum
  | "alpha" => some Char.isAlpha
  | "ascii" => some isAscii
  | "blank" => some fun c => c == '\t' || c == ' '
  | "cntrl" => some fun c => c.toNat < 0x20 || c == '\x7f'
  | "digit" => some Char.isDigit
  | "graph" => some (between '!' '~')
  | "lower" => some Char.isLower
  | "print" => some (between ' ' '~')
  | "punct" => some fun c => between '!' '~' c && !c.isAlphanum
  | "space" => some asciiBlank
  | "upper" => some Char.isUpper
  | "word" => some asciiWord
  | "xdigit" => some fun c => c.isDigit || between 'a' 'f' c || between 'A' 'F' c
  | _ => none

/-- The characters of some general categories. -/
def ofCategories (categories : List Category) : CharClass := Category.anyContains categories

/-- The general categories by their short and long names. -/
def category? : String → Option (List Category)
  | "lu" | "uppercaseletter" => some [.uppercaseLetter]
  | "ll" | "lowercaseletter" => some [.lowercaseLetter]
  | "lt" | "titlecaseletter" => some [.titlecaseLetter]
  | "lc" | "casedletter" => some [.uppercaseLetter, .lowercaseLetter, .titlecaseLetter]
  | "lm" | "modifierletter" => some [.modifierLetter]
  | "lo" | "otherletter" => some [.otherLetter]
  | "l" | "letter" =>
      some [.uppercaseLetter, .lowercaseLetter, .titlecaseLetter, .modifierLetter, .otherLetter]
  | "mn" | "nonspacingmark" => some [.nonspacingMark]
  | "mc" | "spacingmark" => some [.spacingMark]
  | "me" | "enclosingmark" => some [.enclosingMark]
  | "m" | "mark" | "combiningmark" => some [.nonspacingMark, .spacingMark, .enclosingMark]
  | "nd" | "decimalnumber" | "digit" => some [.decimalNumber]
  | "nl" | "letternumber" => some [.letterNumber]
  | "no" | "othernumber" => some [.otherNumber]
  | "n" | "number" => some [.decimalNumber, .letterNumber, .otherNumber]
  | "pc" | "connectorpunctuation" => some [.connectorPunctuation]
  | "pd" | "dashpunctuation" => some [.dashPunctuation]
  | "ps" | "openpunctuation" => some [.openPunctuation]
  | "pe" | "closepunctuation" => some [.closePunctuation]
  | "pi" | "initialpunctuation" => some [.initialPunctuation]
  | "pf" | "finalpunctuation" => some [.finalPunctuation]
  | "po" | "otherpunctuation" => some [.otherPunctuation]
  | "p" | "punct" | "punctuation" =>
      some
        [.connectorPunctuation, .dashPunctuation, .openPunctuation, .closePunctuation,
         .initialPunctuation, .finalPunctuation, .otherPunctuation]
  | "sm" | "mathsymbol" => some [.mathSymbol]
  | "sc" | "currencysymbol" => some [.currencySymbol]
  | "sk" | "modifiersymbol" => some [.modifierSymbol]
  | "so" | "othersymbol" => some [.otherSymbol]
  | "s" | "symbol" => some [.mathSymbol, .currencySymbol, .modifierSymbol, .otherSymbol]
  | "zs" | "spaceseparator" => some [.spaceSeparator]
  | "zl" | "lineseparator" => some [.lineSeparator]
  | "zp" | "paragraphseparator" => some [.paragraphSeparator]
  | "z" | "separator" => some [.spaceSeparator, .lineSeparator, .paragraphSeparator]
  | "cc" | "control" | "cntrl" => some [.control]
  | "cf" | "format" => some [.format]
  | "co" | "privateuse" => some [.privateUse]
  | _ => none

/-- Whether a code point belongs to a category. -/
def isAssigned : CharClass := ofCategories Category.all

/-- Classes that are named like general categories. -/
def generalCategory? (name : String) : Option CharClass :=
  match name with
  | "any" => some fun _ => true
  | "assigned" => some isAssigned
  | "ascii" => some isAscii
  | "cn" | "unassigned" => some isAssigned.complement
  | "c" | "other" =>
      some fun c => ofCategories [.control, .format, .privateUse] c || !isAssigned c
  | _ => (category? name).map ofCategories

/-- Binary properties by their names. -/
def property? : String → Option CharClass
  | "alphabetic" | "alpha" => some isAlphabetic
  | "lowercase" | "lower" => some isLowercase
  | "uppercase" | "upper" => some isUppercase
  | "cased" => some isCased
  | "caseignorable" | "ci" => some isCaseIgnorable
  | "whitespace" | "wspace" | "space" => some isBlank
  | _ => none

/-- The characters of a script by its name. -/
def script? (name : String) : Option CharClass := (Script.named.lookup name).map Script.contains

/-- A name without case, white space, hyphens and underscores, and without a leading `is`. -/
def normalName (name : List Char) : String :=
  let letters :=
    (name.filter fun c => !(isBlank c || c == '-' || c == '_')).map Char.toLower
  match letters with
  | 'i' :: 's' :: rest => String.ofList (if rest = ['c'] then letters else rest)
  | _ => String.ofList letters

/-- The class of a property given by its name alone. -/
def named? (name : List Char) : Option CharClass :=
  let name := normalName name
  match property? name with
  | some accepts => some accepts
  | none =>
      match generalCategory? name with
      | some accepts => some accepts
      | none => script? name

/-- The class of a property given with its kind. -/
def valued? (kind value : List Char) : Option CharClass :=
  match normalName kind with
  | "gc" | "generalcategory" => generalCategory? (normalName value)
  | "sc" | "script" => script? (normalName value)
  | _ => none

end CharClass

end Imprint
