import Imprint.Proofs.Text.Numeral
import Imprint.Text.Scan

/-!
# Padded numerals at the front of a text

Decimal numerals of a width are taken from the front of a text as they were written.  Numerals of
one width are in the order of their numbers, whatever follows them.
-/

namespace Imprint.Text

variable {width number : Nat}

/-- Whether numerals of a width are wide enough for a number. -/
def Fits (width number : Nat) : Prop := 0 < width ∧ (Nat.toDigits 10 number).length ≤ width

theorem fits_two (small : number < 100) : Fits 2 number :=
  ⟨by omega, (Nat.length_toDigits_le_iff (by omega) (by omega)).mpr (by omega)⟩

theorem fits_four (small : number < 10000) : Fits 4 number :=
  ⟨by omega, (Nat.length_toDigits_le_iff (by omega) (by omega)).mpr (by omega)⟩

/-! ## Decimal digits -/

theorem isDigit_of_isDigitOf_ten {c : Char} (digit : isDigitOf 10 c = true) :
    c.isDigit = true := by
  rw [isDigitOf, hexValue?] at digit
  split at digit
  · assumption
  · split at digit
    · rw [Option.any_some, decide_eq_true_iff] at digit
      omega
    · split at digit
      · rw [Option.any_some, decide_eq_true_iff] at digit
        omega
      · contradiction

theorem isDigit_of_mem_padded {digit : Char} (member : digit ∈ padded 10 width number) :
    digit.isDigit = true :=
  isDigit_of_isDigitOf_ten (isDigitOf_padded (by omega) (by omega) width number digit member)

theorem value_eq_numeral {digits : List Char}
    (allDigits : ∀ digit ∈ digits, digit.isDigit = true) : value digits = numeral 10 digits := by
  suffices onward : ∀ start, valueFrom start digits =
      digits.foldl (fun number digit => number * 10 + (hexValue? digit).getD 0) start from
    onward 0
  intro start
  induction digits generalizing start with
  | nil => rfl
  | cons digit digits ih =>
      have isDigit := allDigits digit List.mem_cons_self
      have known : hexValue? digit = some (digit.toNat - '0'.toNat) := by
        rw [hexValue?, if_pos isDigit]
      rw [valueFrom, List.foldl_cons, List.foldl_cons, known, Option.getD_some]
      exact ih (fun c member => allDigits c (List.mem_cons_of_mem _ member)) _

theorem value_padded (width number : Nat) : value (padded 10 width number) = number := by
  rw [value_eq_numeral fun _ member => isDigit_of_mem_padded member]
  exact numeral_padded (by omega) (by omega) width number

theorem Fits.length_padded (fits : Fits width number) :
    (padded 10 width number).length = width :=
  Text.length_padded fits.2

/-- A numeral has a first digit. -/
theorem exists_padded_eq_cons (width number : Nat) :
    ∃ digit digits, padded 10 width number = digit :: digits ∧ digit.isDigit = true := by
  cases written : padded 10 width number with
  | nil =>
      have digits : Nat.toDigits 10 number = [] := (List.append_eq_nil_iff.mp written).2
      exact absurd digits Nat.toDigits_ne_nil
  | cons digit digits =>
      exact ⟨digit, digits, rfl, isDigit_of_mem_padded (written ▸ List.mem_cons_self)⟩

theorem isEmpty_padded (width number : Nat) : (padded 10 width number).isEmpty = false := by
  obtain ⟨digit, digits, written, -⟩ := exists_padded_eq_cons width number
  rw [written]
  rfl

theorem isBlank_of_isDigit {c : Char} (digit : c.isDigit = true) : isBlank c = false := by
  rw [Char.isDigit, Bool.and_eq_true, decide_eq_true_iff, decide_eq_true_iff] at digit
  have first : 48 ≤ c.toNat := UInt32.le_iff_toNat_le.mp digit.1
  have last : c.toNat ≤ 57 := UInt32.le_iff_toNat_le.mp digit.2
  simp only [isBlank, Bool.or_eq_false_iff, Bool.and_eq_false_iff, decide_eq_false_iff_not,
    beq_eq_false_iff_ne]
  omega

/-! ## Taking numerals -/

@[simp]
theorem expect?_cons_self (c : Char) (rest : List Char) : expect? c (c :: rest) = some rest := by
  rw [expect?, beq_self_eq_true, if_pos rfl]

theorem expect?_cons_of_ne {c head : Char} (different : head ≠ c) (rest : List Char) :
    expect? c (head :: rest) = none := by
  rw [expect?, if_neg (by simpa using different)]

/-- A numeral does not begin with a character that is no digit. -/
theorem expect?_padded_append {c : Char} (noDigit : c.isDigit = false) (rest : List Char) :
    expect? c (padded 10 width number ++ rest) = none := by
  obtain ⟨digit, digits, written, isDigit⟩ := exists_padded_eq_cons width number
  have different : digit ≠ c := by
    rintro rfl
    exact Bool.false_ne_true (noDigit.symm.trans isDigit)
  rw [written, List.cons_append, expect?_cons_of_ne different]

theorem trimStart_padded_append (width number : Nat) (rest : List Char) :
    trimStart (padded 10 width number ++ rest) = padded 10 width number ++ rest := by
  obtain ⟨digit, digits, written, isDigit⟩ := exists_padded_eq_cons width number
  rw [written, List.cons_append, trimStart_cons, isBlank_of_isDigit isDigit]
  rfl

theorem digits?_padded_append (fits : Fits width number) (rest : List Char) :
    digits? width (padded 10 width number ++ rest) = some (number, rest) := by
  have allDigits : (padded 10 width number).all Char.isDigit = true :=
    List.all_eq_true.mpr fun _ member => isDigit_of_mem_padded member
  have taken : (padded 10 width number ++ rest).take width = padded 10 width number :=
    List.take_left' fits.length_padded
  have left : (padded 10 width number ++ rest).drop width = rest :=
    List.drop_left' fits.length_padded
  simp only [digits?, taken, left, fits.length_padded, allDigits, decide_true, Bool.and_self,
    if_true, value_padded]

theorem digits?_cons_of_not_isDigit {c : Char} (noDigit : c.isDigit = false) (positive : 0 < width)
    (rest : List Char) : digits? width (c :: rest) = none := by
  obtain ⟨more, rfl⟩ := Nat.exists_eq_succ_of_ne_zero (Nat.ne_of_gt positive)
  simp [digits?, noDigit]

/-- A numeral is taken as a whole if it is as wide as can be. -/
theorem number?_padded_append (fits : Fits width number) (rest : List Char) :
    number? width (padded 10 width number ++ rest) = some (number, rest) := by
  have taken : (padded 10 width number ++ rest).take width = padded 10 width number :=
    List.take_left' fits.length_padded
  have left : (padded 10 width number ++ rest).drop (padded 10 width number).length = rest :=
    List.drop_left' rfl
  have run : (padded 10 width number).takeWhile Char.isDigit = padded 10 width number := by
    have whole := @List.takeWhile_append_of_pos _ Char.isDigit (padded 10 width number) []
      fun _ member => isDigit_of_mem_padded member
    simpa using whole
  simp only [number?, taken, left, run, isEmpty_padded, Bool.false_eq_true, if_false, value_padded]

theorem number?_cons_of_not_isDigit {c : Char} (noDigit : c.isDigit = false) (rest : List Char) :
    number? width (c :: rest) = none := by
  cases width <;> simp [number?, noDigit]

/-- Digits are taken as a whole if no digit follows. -/
theorem longNumber?_append_cons {digits : List Char} {next : Char} (present : digits ≠ [])
    (allDigits : ∀ digit ∈ digits, digit.isDigit = true) (stops : next.isDigit = false)
    (rest : List Char) :
    longNumber? (digits ++ next :: rest) = some (value digits, next :: rest) := by
  have run : (digits ++ next :: rest).takeWhile Char.isDigit = digits := by
    rw [List.takeWhile_append_of_pos allDigits, List.takeWhile_cons_of_neg (by simp [stops]),
      List.append_nil]
  have left : (digits ++ next :: rest).drop digits.length = next :: rest := List.drop_left' rfl
  have notEmpty : digits.isEmpty = false := List.isEmpty_eq_false_iff.mpr present
  simp only [longNumber?, number?, List.take_length, run, left, notEmpty, Bool.false_eq_true,
    if_false]

theorem longNumber?_padded_append_cons {next : Char} (stops : next.isDigit = false)
    (rest : List Char) :
    longNumber? (padded 10 width number ++ next :: rest) = some (number, next :: rest) := by
  have present := List.isEmpty_eq_false_iff.mp (isEmpty_padded width number)
  rw [longNumber?_append_cons present (fun _ member => isDigit_of_mem_padded member) stops,
    value_padded]

/-! ## Order -/

/-- The last digit of a numeral is that of the units. -/
theorem padded_succ_succ (width number : Nat) :
    padded 10 (width + 2) number =
      padded 10 (width + 1) (number / 10) ++ [(number % 10).digitChar] := by
  by_cases small : number < 10
  · have tens : number / 10 = 0 := Nat.div_eq_of_lt small
    rw [padded, padded, tens, Nat.toDigits_of_lt_base small, Nat.toDigits_zero,
      Nat.mod_eq_of_lt small, ← List.replicate_succ']
    rfl
  · have digits := Nat.toDigits_eq_if (b := 10) (n := number) (by omega)
    rw [if_neg small] at digits
    have zeros : width + 2 - ((Nat.toDigits 10 (number / 10)).length + 1) =
        width + 1 - (Nat.toDigits 10 (number / 10)).length := by omega
    rw [padded, padded, digits, List.length_append, List.length_singleton, zeros,
      List.append_assoc]

/-- Numerals of a width are in the order of their numbers, whatever follows. -/
theorem padded_append_lt {first second : Nat} (fits : Fits width second) (less : first < second)
    (behindFirst behindSecond : List Char) :
    padded 10 width first ++ behindFirst < padded 10 width second ++ behindSecond := by
  obtain ⟨positive, digits⟩ := fits
  have bound := (Nat.length_toDigits_le_iff (by omega) positive).mp digits
  clear digits
  obtain ⟨more, rfl⟩ := Nat.exists_eq_succ_of_ne_zero (Nat.ne_of_gt positive)
  have digits : ∀ second < 10, ∀ first < second, first.digitChar < second.digitChar := by decide
  induction more generalizing first second behindFirst behindSecond with
  | zero =>
      have single {digit : Nat} (small : digit < 10) : padded 10 1 digit = [digit.digitChar] := by
        rw [padded, Nat.toDigits_of_lt_base small]
        rfl
      rw [single bound, single (Nat.lt_trans less bound)]
      exact List.cons_lt_cons_iff.mpr (.inl (digits second bound first less))
  | succ more ih =>
      rw [padded_succ_succ, padded_succ_succ, List.append_assoc, List.append_assoc]
      by_cases tens : first / 10 < second / 10
      · exact ih tens _ _ (by omega) (by rw [Nat.pow_succ] at bound; omega)
      · have same : first / 10 = second / 10 := by omega
        rw [same]
        have units : first % 10 < second % 10 := by omega
        have small : second % 10 < 10 := by omega
        exact List.append_left_lt (List.cons_lt_cons_iff.mpr (.inl (digits _ small _ units)))

end Imprint.Text
