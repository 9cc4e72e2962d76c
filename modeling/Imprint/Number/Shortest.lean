import Imprint.Number.Binary64

/-!
# Shortest decimal text

A floating-point number is written with the fewest digits that read back as the number, in
positional notation.  The digits are found by trying decimal grids from coarse to fine: on each
only the two neighbours of the number can read back.
-/

namespace Imprint

namespace Binary64

/-- A positive fraction. -/
structure Fraction where
  numerator : Nat
  denominator : Nat

/-- The fraction `value · 2 ^ exponent`. -/
def Fraction.ofBinary (value : Nat) (exponent : Int) : Fraction :=
  if exponent < 0 then ⟨value, Nat.pow 2 (-exponent).toNat⟩
  else ⟨value * Nat.pow 2 exponent.toNat, 1⟩

/-- The fraction `value · 10 ^ exponent`. -/
def Fraction.ofDecimal (value : Nat) (exponent : Int) : Fraction :=
  if exponent < 0 then ⟨value, Nat.pow 10 (-exponent).toNat⟩
  else ⟨value * Nat.pow 10 exponent.toNat, 1⟩

/-- The integral part of a quotient of fractions. -/
def Fraction.divFloor (first second : Fraction) : Nat :=
  (first.numerator * second.denominator) / (first.denominator * second.numerator)

/-- Whether one fraction is less than another. -/
def Fraction.less (first second : Fraction) : Bool :=
  first.numerator * second.denominator < second.numerator * first.denominator

/-- Whether a decimal number is read as the number with the given mantissa and exponent: it lies
between the halfway points to the neighbours, which belong to even mantissas. -/
def readsBack (mantissa : Nat) (exponent : Int) (value : Fraction) : Bool :=
  let low :=
    if mantissa = Nat.pow 2 52 ∧ minExponent < exponent then
      Fraction.ofBinary (4 * mantissa - 1) (exponent - 2)
    else Fraction.ofBinary (2 * mantissa - 1) (exponent - 1)
  let high := Fraction.ofBinary (2 * mantissa + 1) (exponent - 1)
  if mantissa % 2 = 0 then !value.less low && !high.less value
  else low.less value && value.less high

/-- The two neighbours of a number on the grid of multiples of a power of ten that read back, the
nearer one first. -/
def onGrid (mantissa : Nat) (exponent grid : Int) : Option Nat :=
  let exact := Fraction.ofBinary mantissa exponent
  let below := exact.divFloor (.ofDecimal 1 grid)
  let above := below + 1
  let belowReads := 0 < below && readsBack mantissa exponent (.ofDecimal below grid)
  let aboveReads := readsBack mantissa exponent (.ofDecimal above grid)
  let middle := Fraction.ofDecimal (10 * below + 5) (grid - 1)
  if belowReads && aboveReads then some (if exact.less middle then below else above)
  else if belowReads then some below
  else if aboveReads then some above
  else none

/-- The digits and the grid exponent of the shortest decimal that reads back, tried on `count`
grids of which the first has the given exponent. -/
def searchGrids (mantissa : Nat) (exponent : Int) : Nat → Int → Nat × Int
  | 0, grid => ((Fraction.ofBinary mantissa exponent).divFloor (.ofDecimal 1 grid), grid)
  | count + 1, grid =>
      match onGrid mantissa exponent grid with
      | some digits => (digits, grid)
      | none => searchGrids mantissa exponent count (grid - 1)

/-- The shortest digits of a positive number, with the power of ten that they count. -/
def shortest (mantissa : Nat) (exponent : Int) : Nat × Int :=
  let magnitude := ((mantissa.log2 : Int) + exponent) * 30103 / 100000
  searchGrids mantissa exponent 20 (magnitude + 1)

/-- A decimal number in positional notation. -/
def positional (digits : Nat) (exponent : Int) : List Char :=
  let written := Nat.toDigits 10 digits
  if 0 ≤ exponent then written ++ List.replicate exponent.toNat '0'
  else
    let places := (-exponent).toNat
    let filled := List.replicate (places + 1 - written.length) '0' ++ written
    let cut := filled.length - places
    let fraction := ((filled.drop cut).reverse.dropWhile (· == '0')).reverse
    if fraction.isEmpty then filled.take cut else filled.take cut ++ '.' :: fraction

/-- The text of a number. -/
def toText : Binary64 → String
  | .notANumber => "NaN"
  | .infinite negative => if negative then "-inf" else "inf"
  | .finite negative mantissa exponent =>
      let written :=
        if mantissa = 0 then ['0']
        else
          let (digits, grid) := shortest mantissa exponent
          positional digits grid
      String.ofList (if negative then '-' :: written else written)

end Binary64

end Imprint
