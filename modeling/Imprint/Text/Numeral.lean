/-!
# Numerals

Natural numbers written in a base with the digits `0` to `9` and `a` to `f`, filled up with zeros
to a least width, and decimal numerals read back.
-/

namespace Imprint.Text

/-- The digits of a number, with zeros in front up to the given width. -/
def padded (base width number : Nat) : List Char :=
  let digits := Nat.toDigits base number
  List.replicate (width - digits.length) '0' ++ digits

/-- The decimal digits of a number, with zeros in front up to the given width. -/
def decimal (width number : Nat) : String := String.ofList (padded 10 width number)

/-- The value of a decimal numeral that follows `start`. -/
def valueFrom (start : Nat) (digits : List Char) : Nat :=
  digits.foldl (fun value digit => value * 10 + (digit.toNat - '0'.toNat)) start

/-- The value of a decimal numeral. -/
def value (digits : List Char) : Nat := valueFrom 0 digits

/-- The value of a hexadecimal digit. -/
def hexValue? (c : Char) : Option Nat :=
  if c.isDigit then some (c.toNat - '0'.toNat)
  else if 'a' ≤ c ∧ c ≤ 'f' then some (c.toNat - 'a'.toNat + 10)
  else if 'A' ≤ c ∧ c ≤ 'F' then some (c.toNat - 'A'.toNat + 10)
  else none

/-- The value of a hexadecimal numeral, if every character is a digit. -/
def hexNumber? (digits : List Char) : Option Nat :=
  digits.foldlM (fun value digit => (hexValue? digit).map (value * 16 + ·)) 0

/-- The character of a code point, unless it is a surrogate or too large. -/
def scalar? (code : Nat) : Option Char :=
  if code < 0xd800 ∨ (0xe000 ≤ code ∧ code < 0x110000) then some (Char.ofNat code) else none

end Imprint.Text
