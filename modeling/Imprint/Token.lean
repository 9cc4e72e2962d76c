import Imprint.Literal.Style

/-!
# Identifier tokens

A source text is reduced to the identifiers in it.  Comments and string literals are passed over,
except that a literal in the place of an object key counts as an identifier.  Reading goes from
lexeme to lexeme: `lexeme` says what stands at the head of a text and how long it is, and
`tokens` collects the identifiers.
-/

namespace Imprint

open Text

/-- A stretch of source text: its length and the identifier it is, if it is one. -/
structure Lexeme where
  length : Nat
  token : Option (List Char)
  deriving DecidableEq

/-- The length of a text up to the first occurrence of a marker, or of the whole text.  An empty
marker occurs nowhere. -/
def distanceTo (marker : List Char) : List Char → Nat
  | [] => 0
  | c :: rest =>
      if !marker.isEmpty && marker.isPrefixOf (c :: rest) then 0 else distanceTo marker rest + 1

/-- The inside of a literal whose opening quote has been read: everything up to the same quote,
where a backslash may take the character after it along. -/
def literalBody (quote : Char) (escapes : Bool) : List Char → List Char
  | [] => []
  | [c] => if c == quote then [] else [c]
  | c :: next :: rest =>
      if c == quote then []
      else if escapes && c == '\\' then c :: next :: literalBody quote escapes rest
      else c :: literalBody quote escapes (next :: rest)

/-- Whether a literal can be an object key: letters, digits, underscores and hyphens. -/
def isKey (literal : List Char) : Bool :=
  !literal.isEmpty && literal.all fun c => isAlphanumeric c || c == '_' || c == '-'

/-- Whether an identifier can begin with a character. -/
def startsIdentifier (c : Char) : Bool := isAlphabetic c || c == '_'

/-- The characters that continue an identifier.  A hyphen does so only where identifiers are
hyphenated, and only before a letter or digit. -/
def identifierRun (hyphenated : Bool) : List Char → List Char
  | [] => []
  | c :: rest =>
      if isAlphanumeric c || c == '_' || (hyphenated && c == '-' && rest.head?.any isAlphanumeric)
      then c :: identifierRun hyphenated rest
      else []

/-- The lexeme that begins with an opening quote.  It is an object key if a colon follows the
closing quote, with nothing but white space between. -/
def literalLexeme (lexicon : Lexicon) (quote : Char) (rest : List Char) : Lexeme :=
  let body := literalBody quote lexicon.escapesInQuotes rest
  let after := trimStart (rest.drop (body.length + 1))
  ⟨body.length + 2, if after.head? == some ':' && isKey body then some body else none⟩

/-- The length of the comment at the head of a text, if one stands there.  A line comment ends
before the line break, a block comment after its closing mark. -/
def commentLength (lexicon : Lexicon) (text : List Char) : Option Nat :=
  if lexicon.lineComments.any fun marker => !marker.isEmpty && marker.toList.isPrefixOf text then
    some (text.takeWhile (· != '\n')).length
  else
    match lexicon.blockComment with
    | some (opening, closing) =>
        if !opening.isEmpty && opening.toList.isPrefixOf text then
          let inside := distanceTo closing.toList (text.drop opening.length)
          some (opening.length + inside + closing.length)
        else none
    | none => none

/-- What stands at the head of a text that begins with `c`. -/
def lexeme (lexicon : Lexicon) (hyphenated : Bool) (c : Char) (rest : List Char) : Lexeme :=
  match commentLength lexicon (c :: rest) with
  | some length => ⟨length, none⟩
  | none =>
      if lexicon.quotes.contains c then literalLexeme lexicon c rest
      else if c == '\\' then ⟨2, none⟩
      else if startsIdentifier c then
        let run := identifierRun hyphenated (c :: rest)
        ⟨run.length, some run⟩
      else ⟨1, none⟩

/-- The identifiers of a text after its first `skip` characters. -/
def tokensFrom (lexicon : Lexicon) (hyphenated : Bool) : Nat → List Char → List (List Char)
  | _, [] => []
  | skip + 1, _ :: rest => tokensFrom lexicon hyphenated skip rest
  | 0, c :: rest =>
      let found := lexeme lexicon hyphenated c rest
      found.token.toList ++ tokensFrom lexicon hyphenated (found.length - 1) rest

/-- The identifiers of a text, in order. -/
def tokens (lexicon : Lexicon) (hyphenated : Bool) (text : List Char) : List (List Char) :=
  tokensFrom lexicon hyphenated 0 text

end Imprint
