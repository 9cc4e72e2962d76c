import Imprint.Naming.Convention

/-!
# Words of an identifier

An identifier of any convention is cut into lowercase words at separators, before a capital that
follows a small letter or digit, and at the end of an acronym.  The words tell which field an
identifier spells.
-/

namespace Imprint

open Text

/-- Whether a character separates words without being part of one. -/
def isWordSeparator (c : Char) : Bool := c == '_' || c == '-' || isBlank c

/-- Whether a word ends with `c` because of the characters that follow: a capital after a small
letter or a digit, or a capital and a small letter after a capital. -/
def endsWord (c : Char) : List Char → Bool
  | [] => false
  | next :: rest =>
      isUppercase next &&
        (isLowercase c || c.isDigit || (isUppercase c && rest.head?.any isLowercase))

/-- The pieces of an identifier between word boundaries; `current` is what has been read of the
piece in hand. -/
def wordPieces (current : List Char) : List Char → List (List Char)
  | [] => if current.isEmpty then [] else [current]
  | c :: rest =>
      if isWordSeparator c then
        (if current.isEmpty then [] else [current]) ++ wordPieces [] rest
      else if endsWord c rest then (current ++ [c]) :: wordPieces [] rest
      else wordPieces (current ++ [c]) rest

/-- The lowercase words of an identifier. -/
def splitWords (identifier : List Char) : List (List Char) :=
  (wordPieces [] identifier).map lower

namespace Field

/-- The field that a sequence of words names, under its own name or under one of the names of the
descriptor. -/
def ofWords? : List String → Option Field
  | ["version"] => some .version
  | ["commit", "hash"] => some .commitHash
  | ["commit", "date"] => some .commitDate
  | ["commit", "descriptor"] => some .commitDescriptor
  | ["commit", "smart"] => some .commitDescriptor
  | ["commit", "tag", "or", "branch"] => some .commitDescriptor
  | ["build", "date"] => some .buildDate
  | _ => none

/-- The field that an identifier spells under some convention. -/
def resolve? (identifier : String) : Option Field :=
  ofWords? ((splitWords identifier.toList).map String.ofList)

/-- The field with the given name, under any convention. -/
def parse (text : String) : Except Error Field :=
  match resolve? text with
  | some field => .ok field
  | none => .error (.unknownField text)

@[simp]
theorem ofWords?_words (descriptor : DescriptorName) (field : Field) :
    ofWords? (field.words descriptor) = some field := by
  cases field <;> cases descriptor <;> rfl

end Field

end Imprint
