import Imprint.Number.Binary64
import Imprint.Text.LetterCase
import Imprint.Text.Numeral

/-!
# Numbers in free text

A text that is nothing but a number: an integer of 64 bits, or a decimal numeral with a fraction
or an exponent, which stands for the nearest floating-point number.
-/

namespace Imprint

open Text

/-- A sign and the text behind it. -/
def splitSign : List Char → Bool × List Char
  | '-' :: rest => (true, rest)
  | '+' :: rest => (false, rest)
  | text => (false, text)

/-- Whether a text consists of at least one digit. -/
def isDigits (text : List Char) : Bool := !text.isEmpty && text.all Char.isDigit

/-- The integer with a sign and digits. -/
def signedValue (negative : Bool) (digits : List Char) : Int :=
  if negative then -(value digits : Int) else value digits

/-- The integer of 64 bits that a text is. -/
def int64? (text : String) : Option Int :=
  let (negative, digits) := splitSign text.toList
  let number := signedValue negative digits
  if isDigits digits && -Int.pow 2 63 ≤ number && number < Int.pow 2 63 then some number else none

namespace Binary64

/-- The exponent that ends a numeral; without one it is zero. -/
def exponent? : List Char → Option Int
  | [] => some 0
  | mark :: rest =>
      if mark == 'e' || mark == 'E' then
        let (negative, digits) := splitSign rest
        if isDigits digits then some (signedValue negative digits) else none
      else none

/-- A decimal numeral without its sign.  The integral part or the fraction may lack digits, but not
both. -/
def unsigned? (negative : Bool) (text : List Char) : Option Binary64 :=
  let integral := text.takeWhile Char.isDigit
  let (fraction, ending) :=
    match text.dropWhile Char.isDigit with
    | '.' :: rest => (rest.takeWhile Char.isDigit, rest.dropWhile Char.isDigit)
    | rest => ([], rest)
  if integral.isEmpty && fraction.isEmpty then none
  else
    (exponent? ending).map fun exponent =>
      ofDecimal negative (value (integral ++ fraction)) (exponent - fraction.length)

/-- The floating-point number that a text is.  Infinities and the value that is no number are
written as words, in any case. -/
def parse? (text : String) : Option Binary64 :=
  let (negative, body) := splitSign text.toList
  match asciiLower (String.ofList body) with
  | "inf" | "infinity" => some (.infinite negative)
  | "nan" => some .notANumber
  | _ => unsigned? negative body

/-- Whether a number is zero, of either sign. -/
def isZero : Binary64 → Bool
  | .finite _ mantissa _ => mantissa == 0
  | .infinite _ | .notANumber => false

end Binary64

end Imprint
