import Imprint.Number.Numeral
import Imprint.Proofs.Text.Scan
import Mathlib.Data.List.Induction

/-!
# Integers as they are written

An integer can be written in many ways, with a plus sign or with zeros in front, and it is printed
in one of them.  Main statement: a text that is an integer is the text that the integer is printed
as exactly if it has no such ornament.
-/

namespace Imprint

open Text

/-! ## Digits -/

/-- No number but zero is printed with a zero in front. -/
theorem toDigits_head_zero {number : Nat} (zero : (Nat.toDigits 10 number).head? = some '0') :
    number = 0 := by
  induction number using Nat.strongRecOn with
  | ind number ih =>
      rw [Nat.toDigits_eq_if (by decide)] at zero
      split at zero
      · next small =>
          have back := congrArg Char.toNat (Option.some.inj zero)
          rw [Nat.toNat_digitChar_of_lt_ten small] at back
          change 48 + number = 48 at back
          omega
      · next large =>
          have present : Nat.toDigits 10 (number / 10) ≠ [] := Nat.toDigits_ne_nil
          rw [List.head?_append, Option.or_of_isSome (List.isSome_head?.mpr present)] at zero
          have shorter := ih (number / 10) (by omega) zero
          omega

theorem value_append_singleton (digits : List Char) (digit : Char) :
    value (digits ++ [digit]) = value digits * 10 + (digit.toNat - '0'.toNat) := by
  rw [value, valueFrom, List.foldl_append]
  rfl

/-- A digit is the character of its value. -/
theorem digitChar_of_isDigit {digit : Char} (decimal : digit.isDigit = true) :
    digit.toNat - '0'.toNat < 10 ∧ Nat.digitChar (digit.toNat - '0'.toNat) = digit := by
  obtain ⟨first, last⟩ := Bool.and_eq_true_iff.mp decimal
  have least : 48 ≤ digit.toNat := UInt32.le_iff_toNat_le.mp (of_decide_eq_true first)
  have most : digit.toNat ≤ 57 := UInt32.le_iff_toNat_le.mp (of_decide_eq_true last)
  have small : digit.toNat - '0'.toNat < 10 := by
    change digit.toNat - 48 < 10
    omega
  refine ⟨small, Char.toNat_inj.mp ?_⟩
  rw [Nat.toNat_digitChar_of_lt_ten small]
  change 48 + (digit.toNat - 48) = digit.toNat
  omega

/-- A numeral without a zero in front is what its value is printed as. -/
theorem toDigits_value {digits : List Char} (decimal : ∀ digit ∈ digits, digit.isDigit = true)
    (present : digits ≠ []) (noZero : digits.head? ≠ some '0') :
    Nat.toDigits 10 (value digits) = digits := by
  induction digits using List.reverseRecOn with
  | nil => exact absurd rfl present
  | append_singleton digits digit ih =>
      rw [List.forall_mem_append] at decimal
      obtain ⟨small, same⟩ := digitChar_of_isDigit (decimal.2 digit (List.mem_singleton_self digit))
      rw [value_append_singleton]
      by_cases single : digits = []
      · subst single
        rw [value, valueFrom, List.foldl_nil, Nat.zero_mul, Nat.zero_add,
          Nat.toDigits_of_lt_base small, same]
        rfl
      · rw [List.head?_append, Option.or_of_isSome (List.isSome_head?.mpr single)] at noZero
        have written := ih decimal.1 single noZero
        have positive : value digits ≠ 0 := by
          intro zero
          rw [zero] at written
          rw [← written] at noZero
          exact noZero rfl
        rw [Nat.toDigits_eq_if (by decide), if_neg (by omega), Nat.mul_comm,
          Nat.mul_add_div (by decide), Nat.div_eq_of_lt small, Nat.add_zero, written,
          Nat.mul_add_mod, Nat.mod_eq_of_lt small, same]

theorem toDigits_value_eq_iff {digits : List Char}
    (decimal : ∀ digit ∈ digits, digit.isDigit = true) (present : digits ≠ []) :
    Nat.toDigits 10 (value digits) = digits ↔ (digits.head? = some '0' → digits = ['0']) := by
  constructor
  · intro written zero
    rw [← written] at zero ⊢
    rw [toDigits_head_zero zero]
    rfl
  · intro alone
    by_cases zero : digits.head? = some '0'
    · rw [alone zero]
      rfl
    · exact toDigits_value decimal present zero

/-! ## Signs -/

/-- An integer without a plus sign, without zeros in front and without a sign before a zero. -/
structure IsPlainInteger (text : List Char) : Prop where
  noPlus : text.head? ≠ some '+'
  noZero : text.head? = some '0' → text = ['0']
  noSignedZero : ∀ digits, text = '-' :: digits → digits.head? ≠ some '0'

theorem toList_toString_natCast (number : Nat) :
    (toString (number : Int)).toList = Nat.toDigits 10 number :=
  Nat.toList_repr

theorem toList_toString_neg {number : Nat} (positive : number ≠ 0) :
    (toString (-number : Int)).toList = '-' :: Nat.toDigits 10 number := by
  rw [Int.toString_eq_repr, Int.repr_eq_if, if_neg (by omega), Int.neg_neg, Int.toNat_natCast,
    String.toList_append, Nat.toList_repr]
  rfl

/-- A sign before digits is printed again unless the digits begin with a zero. -/
theorem toList_toString_neg_value_eq_iff {digits : List Char}
    (decimal : ∀ digit ∈ digits, digit.isDigit = true) (present : digits ≠ []) :
    (toString (-(value digits : Int))).toList = '-' :: digits ↔ digits.head? ≠ some '0' := by
  by_cases zero : value digits = 0
  · have printed : (toString (-((0 : Nat) : Int))).toList = ['0'] := rfl
    rw [zero, printed]
    refine iff_of_false (fun written => ?_) fun noZero => ?_
    · exact absurd (List.cons.inj written).1 (by decide)
    · have written := toDigits_value decimal present noZero
      rw [zero] at written
      exact noZero (by rw [← written]; rfl)
  · rw [toList_toString_neg zero, List.cons_inj_right, toDigits_value_eq_iff decimal present]
    refine ⟨fun alone leading => zero ?_, fun noZero leading => absurd leading noZero⟩
    rw [alone leading]
    rfl

theorem isPlainInteger_minus {digits : List Char} :
    IsPlainInteger ('-' :: digits) ↔ digits.head? ≠ some '0' := by
  constructor
  · intro plain
    exact plain.noSignedZero digits rfl
  · intro noZero
    refine ⟨by simp, by simp, fun others same => ?_⟩
    rwa [← (List.cons.inj same).2]

theorem isPlainInteger_of_noMinus {text : List Char} (noMinus : text.head? ≠ some '-') :
    IsPlainInteger text ↔ text.head? ≠ some '+' ∧ (text.head? = some '0' → text = ['0']) := by
  constructor
  · intro plain
    exact ⟨plain.noPlus, plain.noZero⟩
  · rintro ⟨noPlus, noZero⟩
    refine ⟨noPlus, noZero, fun digits same => ?_⟩
    rw [same] at noMinus
    exact absurd rfl noMinus

theorem splitSign_of_unsigned {text : List Char} (noMinus : text.head? ≠ some '-')
    (noPlus : text.head? ≠ some '+') : splitSign text = (false, text) := by
  unfold splitSign
  split
  · exact absurd rfl noMinus
  · exact absurd rfl noPlus
  · rfl

/-- An integer consists of a sign, which may be missing, and digits. -/
theorem of_int64?_eq_some {text : String} {number : Int} (known : int64? text = some number) :
    number = signedValue (splitSign text.toList).1 (splitSign text.toList).2 ∧
      (splitSign text.toList).2 ≠ [] ∧
      ∀ digit ∈ (splitSign text.toList).2, digit.isDigit = true := by
  simp only [int64?, Option.ite_none_right_eq_some, Option.some.injEq, Bool.and_eq_true] at known
  obtain ⟨⟨⟨decimal, -⟩, -⟩, same⟩ := known
  rw [isDigits, Bool.and_eq_true, Bool.not_eq_true', ← Bool.not_eq_true, List.isEmpty_iff,
    List.all_eq_true] at decimal
  exact ⟨same.symm, decimal⟩

/-- What an integer is printed as is the text it has been read from exactly if that text is
plain. -/
theorem toString_eq_iff_of_int64? {text : String} {number : Int}
    (known : int64? text = some number) :
    toString number = text ↔ IsPlainInteger text.toList := by
  obtain ⟨rfl, present, decimal⟩ := of_int64?_eq_some known
  rw [← String.toList_inj]
  clear known
  generalize text.toList = letters at *
  by_cases minus : letters.head? = some '-'
  · obtain ⟨digits, rfl⟩ := List.head?_eq_some_iff.mp minus
    rw [isPlainInteger_minus]
    exact toList_toString_neg_value_eq_iff decimal present
  · rw [isPlainInteger_of_noMinus minus]
    by_cases plus : letters.head? = some '+'
    · obtain ⟨digits, rfl⟩ := List.head?_eq_some_iff.mp plus
      refine iff_of_false (fun written => ?_) fun plain => plain.1 rfl
      change (toString (value digits : Int)).toList = '+' :: digits at written
      rw [toList_toString_natCast] at written
      have digit : isDigitOf 10 '+' = true :=
        isDigitOf_toDigits (by decide) (by decide) (value digits) '+'
          (by rw [written]; exact List.mem_cons_self)
      exact absurd digit (by decide)
    · rw [splitSign_of_unsigned minus plus] at decimal present ⊢
      change (toString (value letters : Int)).toList = letters ↔ _
      rw [toList_toString_natCast, toDigits_value_eq_iff decimal present, and_iff_right plus]

end Imprint
