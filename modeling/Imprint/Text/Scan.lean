import Imprint.Text.Blank
import Imprint.Text.Numeral

/-!
# Reading from the front

Small readers that take something from the front of a text and give back the rest.
-/

namespace Imprint.Text

/-- A number of exactly `count` digits and the rest of the text. -/
def digits? (count : Nat) (text : List Char) : Option (Nat × List Char) :=
  let digits := text.take count
  if digits.length = count && digits.all Char.isDigit then some (value digits, text.drop count)
  else none

/-- The text after an expected character. -/
def expect? (c : Char) : List Char → Option (List Char)
  | [] => none
  | head :: rest => if head == c then some rest else none

/-- A number of at least one and at most `width` digits and the rest of the text. -/
def number? (width : Nat) (text : List Char) : Option (Nat × List Char) :=
  let digits := (text.take width).takeWhile Char.isDigit
  if digits.isEmpty then none else some (value digits, text.drop digits.length)

/-- A number of any length and the rest of the text. -/
def longNumber? (text : List Char) : Option (Nat × List Char) := number? text.length text

/-- The text after an expected piece of text. -/
def expectText? (expected : List Char) (text : List Char) : Option (List Char) :=
  if expected.isPrefixOf text then some (text.drop expected.length) else none

end Imprint.Text
