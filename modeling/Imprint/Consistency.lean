import Imprint.Pair
import Imprint.Token

/-!
# Consistency of a pair

Both texts of a pair are reduced to the identifiers that name a field.  The pair is consistent if
every field is named in both texts, and always by the spelling that the pair was made with.
-/

namespace Imprint

/-- An identifier of a text and the field that it names. -/
abbrev FieldToken := Field × String

namespace Pair

/-- The identifiers of one half. -/
def tokens (pair : Pair) (half : Half) : List String :=
  (Imprint.tokens pair.style.lexicon pair.convention.isHyphenated (pair.text half).toList).map
    String.ofList

/-- The field that an identifier names in a pair: the field with that spelling, else the field
that the identifier spells under any convention. -/
def fieldOf? (pair : Pair) (token : String) : Option Field :=
  (pair.spellings.fieldOf? token).or (Field.resolve? token)

/-- The identifiers of one half that name a field, in order. -/
def fieldTokens (pair : Pair) (half : Half) : List FieldToken :=
  (pair.tokens half).filterMap fun token => (pair.fieldOf? token).map fun field => (field, token)

/-- The identifiers of one half that name a given field, in order. -/
def tokensOf (pair : Pair) (half : Half) (field : Field) : List String :=
  ((pair.fieldTokens half).filter (·.1 == field)).map (·.2)

/-- The first identifier that differs from the expected one. -/
def offending? (expected : String) (found : List String) : Option String :=
  found.find? (· != expected)

/-- The name to report for a field that a text names by `found`: the first one that is not
expected, else the first one, else the mark for a missing field. -/
def reported (expected : String) (found : List String) : String :=
  ((offending? expected found).or found.head?).getD missingMark

/-- Whether a text names a field by the expected name and by no other. -/
def agrees (expected : String) (found : List String) : Bool :=
  !found.isEmpty && (offending? expected found).isNone

/-- Checks one field in both texts. -/
def validateField (pair : Pair) (field : Field) : Except Error Unit :=
  let expected := pair.spellings.get field
  let declared := pair.tokensOf .declaration field
  let defined := pair.tokensOf .definition field
  if agrees expected declared && agrees expected defined then .ok ()
  else
    .error (.inconsistent field (reported expected declared) (reported expected defined) expected)

/-- Checks the fields in canonical order and reports the first that is missing from a text or
named otherwise than expected. -/
def validate (pair : Pair) : Except Error Unit :=
  Field.all.forM pair.validateField

end Pair

end Imprint
