import Imprint.Text.Numeral

/-!
# Numerals read back

Digits at the front of a text, in a base up to sixteen, and the number that they are.  A padded
numeral is taken as a whole and is the number that it was written for, whatever follows it.
-/

namespace Imprint.Text

/-- Whether a character is a digit of a base. -/
def isDigitOf (base : Nat) (c : Char) : Bool := (hexValue? c).any (· < base)

/-- The digits at the front of a text, at most `most` of them. -/
def digitRun (base most : Nat) (text : List Char) : List Char :=
  (text.take most).takeWhile (isDigitOf base)

/-- The number that a numeral of a base is. -/
def numeral (base : Nat) (digits : List Char) : Nat :=
  digits.foldl (fun number digit => number * base + (hexValue? digit).getD 0) 0

theorem hexValue?_digitChar {digit : Nat} (small : digit < 16) :
    hexValue? digit.digitChar = some digit := by
  revert small
  revert digit
  decide

theorem isDigitOf_digitChar {base digit : Nat} (upToSixteen : base ≤ 16) (small : digit < base) :
    isDigitOf base digit.digitChar = true := by
  rw [isDigitOf, hexValue?_digitChar (Nat.lt_of_lt_of_le small upToSixteen)]
  simpa using small

theorem hexValue?_lt {c : Char} {value : Nat} (known : hexValue? c = some value) :
    value < 16 := by
  unfold hexValue? at known
  split at known
  · next decimal =>
      obtain ⟨-, last⟩ := Bool.and_eq_true_iff.mp decimal
      have bound : c.toNat ≤ 57 := UInt32.le_iff_toNat_le.mp (of_decide_eq_true last)
      cases known
      exact Nat.lt_of_le_of_lt (Nat.sub_le_sub_right bound 48) (by decide)
  · split at known
    · next small =>
        have bound : c.toNat ≤ 102 := small.2
        cases known
        exact Nat.add_lt_add_right
          (Nat.lt_of_le_of_lt (Nat.sub_le_sub_right bound 97) (by decide)) 10
    · split at known
      · next capital =>
          have bound : c.toNat ≤ 70 := capital.2
          cases known
          exact Nat.add_lt_add_right
            (Nat.lt_of_le_of_lt (Nat.sub_le_sub_right bound 65) (by decide)) 10
      · contradiction

/-! ## Digits -/

variable {base : Nat}

/-- A numeral of a base holds nothing but digits of it. -/
theorem isDigitOf_toDigits (atLeastTwo : 1 < base) (upToSixteen : base ≤ 16) (number : Nat) :
    ∀ digit ∈ Nat.toDigits base number, isDigitOf base digit = true := by
  induction number using Nat.strongRecOn with
  | ind number ih =>
      rw [Nat.toDigits_eq_if atLeastTwo]
      split
      · next small =>
          intro digit member
          rw [List.mem_singleton.mp member]
          exact isDigitOf_digitChar upToSixteen small
      · next large =>
          have shorter : number / base < number := Nat.div_lt_self (by omega) atLeastTwo
          intro digit member
          rcases List.mem_append.mp member with earlier | last
          · exact ih _ shorter digit earlier
          · rw [List.mem_singleton.mp last]
            exact isDigitOf_digitChar upToSixteen (Nat.mod_lt _ (by omega))

theorem isDigitOf_padded (atLeastTwo : 1 < base) (upToSixteen : base ≤ 16) (width number : Nat) :
    ∀ digit ∈ padded base width number, isDigitOf base digit = true := by
  intro digit member
  rcases List.mem_append.mp member with zero | digits
  · have digitZero : isDigitOf base (Nat.digitChar 0) = true :=
      isDigitOf_digitChar upToSixteen (by omega)
    rw [List.eq_of_mem_replicate zero]
    exact digitZero
  · exact isDigitOf_toDigits atLeastTwo upToSixteen number digit digits

/-- A character that is no digit does not occur in a numeral. -/
theorem ne_of_mem_padded (atLeastTwo : 1 < base) (upToSixteen : base ≤ 16) {width number : Nat}
    {c mark : Char} (member : c ∈ padded base width number)
    (noDigit : isDigitOf base mark = false) : c ≠ mark := by
  rintro rfl
  have digit := isDigitOf_padded atLeastTwo upToSixteen width number c member
  rw [noDigit] at digit
  contradiction

/-- A number that fits the width is written with exactly that many digits. -/
theorem length_padded {width number : Nat}
    (fits : (Nat.toDigits base number).length ≤ width) :
    (padded base width number).length = width := by
  rw [padded, List.length_append, List.length_replicate]
  omega

/-! ## Values -/

theorem numeral_append_singleton (digits : List Char) (digit : Char) :
    numeral base (digits ++ [digit]) = numeral base digits * base + (hexValue? digit).getD 0 := by
  rw [numeral, List.foldl_append]
  rfl

/-- The digits of a number are a numeral for it. -/
theorem numeral_toDigits (atLeastTwo : 1 < base) (upToSixteen : base ≤ 16) (number : Nat) :
    numeral base (Nat.toDigits base number) = number := by
  induction number using Nat.strongRecOn with
  | ind number ih =>
      rw [Nat.toDigits_eq_if atLeastTwo]
      split
      · next small =>
          rw [numeral, List.foldl_cons, List.foldl_nil, hexValue?_digitChar (by omega)]
          simp
      · next large =>
          have shorter : number / base < number := Nat.div_lt_self (by omega) atLeastTwo
          have digit : number % base < base := Nat.mod_lt _ (by omega)
          rw [numeral_append_singleton, ih _ shorter, hexValue?_digitChar (by omega),
            Option.getD_some, Nat.mul_comm]
          exact Nat.div_add_mod number base

/-- Zeros in front do not change what a numeral is. -/
theorem numeral_replicate_zero_append (count : Nat) (digits : List Char) :
    numeral base (List.replicate count '0' ++ digits) = numeral base digits := by
  induction count with
  | zero => rfl
  | succ count ih =>
      rw [List.replicate_succ, List.cons_append]
      have zero : hexValue? '0' = some 0 := by decide
      rw [numeral, List.foldl_cons, zero, Option.getD_some, Nat.zero_mul]
      exact ih

theorem numeral_padded (atLeastTwo : 1 < base) (upToSixteen : base ≤ 16) (width number : Nat) :
    numeral base (padded base width number) = number := by
  rw [padded, numeral_replicate_zero_append, numeral_toDigits atLeastTwo upToSixteen]

/-- Hexadecimal digits are read as the numeral that they are. -/
theorem hexNumber?_eq_some {digits : List Char}
    (allDigits : ∀ digit ∈ digits, isDigitOf 16 digit = true) :
    hexNumber? digits = some (numeral 16 digits) := by
  suffices onward : ∀ start, digits.foldlM
      (fun value digit => (hexValue? digit).map (value * 16 + ·)) start =
        some (digits.foldl (fun number digit => number * 16 + (hexValue? digit).getD 0) start) from
    onward 0
  intro start
  induction digits generalizing start with
  | nil => rfl
  | cons digit digits ih =>
      have isDigit := allDigits digit List.mem_cons_self
      rw [isDigitOf, Option.any_eq_true] at isDigit
      obtain ⟨value, known, -⟩ := isDigit
      rw [List.foldlM_cons, known, Option.map_some, Option.bind_eq_bind, Option.bind_some,
        ih fun digit member => allDigits digit (List.mem_cons_of_mem _ member), List.foldl_cons,
        known, Option.getD_some]

/-! ## Code points -/

theorem scalar?_toNat (c : Char) : scalar? c.toNat = some c := by
  have valid : c.toNat < 0xd800 ∨ (0xdfff < c.toNat ∧ c.toNat < 0x110000) := c.valid
  rw [scalar?, if_pos (by omega), Char.ofNat_toNat]

theorem toNat_of_scalar? {code : Nat} {c : Char} (known : scalar? code = some c) :
    c.toNat = code := by
  rw [scalar?] at known
  split at known
  · next valid =>
      cases known
      rw [Char.ofNat, dif_pos]
      · rfl
      · rw [Nat.isValidChar]
        omega
  · contradiction

/-! ## Runs of digits -/

/-- Digits that fill the width of a run are taken as a whole, whatever follows. -/
theorem digitRun_append_of_length_eq {most : Nat} {digits : List Char}
    (allDigits : ∀ digit ∈ digits, isDigitOf base digit = true) (full : digits.length = most)
    (rest : List Char) : digitRun base most (digits ++ rest) = digits := by
  rw [digitRun, ← full, List.take_left]
  calc
    digits.takeWhile (isDigitOf base) = (digits ++ []).takeWhile (isDigitOf base) := by
      rw [List.append_nil]
    _ = digits ++ [].takeWhile (isDigitOf base) := List.takeWhile_append_of_pos allDigits
    _ = digits := by rw [List.takeWhile_nil, List.append_nil]

/-- Fewer digits than the width are taken as a whole if no digit follows. -/
theorem digitRun_append_cons {most : Nat} {digits : List Char}
    (allDigits : ∀ digit ∈ digits, isDigitOf base digit = true) (short : digits.length ≤ most)
    {next : Char} (stops : isDigitOf base next = false) (rest : List Char) :
    digitRun base most (digits ++ next :: rest) = digits := by
  rw [digitRun, List.take_append, List.take_of_length_le short,
    List.takeWhile_append_of_pos allDigits]
  cases h : most - digits.length with
  | zero => simp
  | succ more =>
      rw [List.take_succ_cons, List.takeWhile_cons_of_neg (by simp [stops]), List.append_nil]

theorem digitRun_padded_append (atLeastTwo : 1 < base) (upToSixteen : base ≤ 16)
    {width number : Nat} (fits : (Nat.toDigits base number).length ≤ width)
    (rest : List Char) :
    digitRun base width (padded base width number ++ rest) = padded base width number :=
  digitRun_append_of_length_eq (isDigitOf_padded atLeastTwo upToSixteen width number)
    (length_padded fits) rest

end Imprint.Text
