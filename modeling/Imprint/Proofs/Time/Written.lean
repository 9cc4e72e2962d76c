import Imprint.Proofs.Text.Scan
import Imprint.Proofs.Time.Calendar
import Imprint.Time.Timestamp

/-!
# Written dates

The two forms that the date of a commit is written in: the one of git, and that of RFC 3339.  What
is written in either form is read as the local time that it was written for, even though a text
may be tried as both.
-/

namespace Imprint.LocalTime

open Text
open Timestamp (yearText)

variable {time : LocalTime} {written rest : List Char}

/-! ## Texts -/

/-- A date and a time of day with a character between them, in front of a text. -/
def clockText (time : LocalTime) (year : List Char) (separator : Char) (rest : List Char) :
    List Char :=
  year ++ '-' :: (padded 10 2 time.date.month ++ '-' :: (padded 10 2 time.date.day ++
    separator :: (padded 10 2 time.hour ++ ':' :: (padded 10 2 time.minute ++
      ':' :: (padded 10 2 time.second ++ rest)))))

/-- A distance from universal time in hours and minutes with a text between them, and its sign.  No
distance has either sign. -/
inductive ZoneText (between : List Char) : Int → List Char → Prop
  | east (minutes : Nat) : ZoneText between minutes
      ('+' :: (padded 10 2 (minutes / 60) ++ (between ++ padded 10 2 (minutes % 60))))
  | west (minutes : Nat) : ZoneText between (-minutes)
      ('-' :: (padded 10 2 (minutes / 60) ++ (between ++ padded 10 2 (minutes % 60))))

/-- The distances from universal time at the end of the strict form. -/
inductive StrictZone : Int → List Char → Prop
  | capital : StrictZone 0 ['Z']
  | small : StrictZone 0 ['z']
  | offset {offset : Int} {zone : List Char} : ZoneText [':'] offset zone → StrictZone offset zone

/-- A fraction of a second, which may be missing. -/
inductive FractionText : List Char → Prop
  | none : FractionText []
  | digits {digits : List Char} : digits ≠ [] → (∀ digit ∈ digits, digit.isDigit = true) →
      FractionText ('.' :: digits)

/-- The texts of a local time: the form of git, with a sign in front of years that do not have
four digits, and the form of RFC 3339, which is for years of four digits. -/
inductive WrittenAs (time : LocalTime) : List Char → Prop
  | git {zone : List Char} : ZoneText [] time.offset zone →
      WrittenAs time (clockText time (yearText time.date.year).toList ' ' (' ' :: zone))
  | rfc3339 {separator : Char} {fraction zone : List Char} :
      0 ≤ time.date.year ∧ time.date.year ≤ 9999 →
      separator = 'T' ∨ separator = 't' ∨ separator = ' ' →
      FractionText fraction → StrictZone time.offset zone →
      WrittenAs time
        (clockText time (padded 10 4 time.date.year.toNat) separator (fraction ++ zone))

/-- Whether the parts of a local time have the widths that they are written with. -/
structure Narrow (time : LocalTime) : Prop where
  month : time.date.month < 100
  day : time.date.day < 100
  hour : time.hour < 100
  minute : time.minute < 100
  second : time.second < 100
  offset : time.offset.natAbs < 6000

/-! ## Years -/

theorem yearText_of_four {year : Int} (four : 0 ≤ year ∧ year ≤ 9999) :
    (yearText year).toList = padded 10 4 year.toNat := by
  rw [yearText, if_pos four, decimal, String.toList_ofList]

theorem yearText_of_signed {year : Int} (signed : ¬ (0 ≤ year ∧ year ≤ 9999)) :
    (yearText year).toList = (if year < 0 then '-' else '+') :: padded 10 4 year.natAbs := by
  rw [yearText, if_neg signed, decimal, String.toList_append, String.toList_ofList]
  split <;> rfl

theorem looseYear?_of_four {year : Nat} (four : year ≤ 9999) (rest : List Char) :
    looseYear? (padded 10 4 year ++ rest) = some ((year : Int), rest) := by
  have read := number?_padded_append (fits_four (by omega : year < 10000)) rest
  rw [looseYear?, trimStart_padded_append]
  obtain ⟨digit, digits, digitsOf, isDigit⟩ := exists_padded_eq_cons 4 year
  rw [digitsOf, List.cons_append] at read ⊢
  split
  · next minus =>
      rw [(List.cons.inj minus).1] at isDigit
      contradiction
  · next plus =>
      rw [(List.cons.inj plus).1] at isDigit
      contradiction
  · rw [read]
    rfl

/-- A year is read back, whatever number of digits it has. -/
theorem looseYear?_yearText (year : Int) (rest : List Char) :
    looseYear? ((yearText year).toList ++ '-' :: rest) = some (year, '-' :: rest) := by
  by_cases four : 0 ≤ year ∧ year ≤ 9999
  · rw [yearText_of_four four, looseYear?_of_four (by omega), Int.toNat_of_nonneg four.1]
  · rw [yearText_of_signed four]
    have read : longNumber? (padded 10 4 year.natAbs ++ '-' :: rest) =
        some (year.natAbs, '-' :: rest) := longNumber?_padded_append_cons (by decide) rest
    by_cases negative : year < 0
    · have back : -(year.natAbs : Int) = year := by omega
      simp only [looseYear?, negative, if_true, List.cons_append, trimStart_cons]
      rw [if_neg (by decide)]
      simp only [read, Option.map_some, back]
    · have back : (year.natAbs : Int) = year := by omega
      simp only [looseYear?, negative, if_false, List.cons_append, trimStart_cons]
      rw [if_neg (by decide)]
      simp only [read, Option.map_some, back]

/-! ## Distances from universal time -/

/-- Hours and minutes behind a sign are read back if the reader takes what stands between them. -/
theorem offset?_of_sign {between zone : List Char} {negative : Bool} {number : Nat}
    {take : List Char → Option (List Char)} (small : number < 6000)
    (taken : ∀ minutes, take (between ++ padded 10 2 minutes) = some (padded 10 2 minutes))
    (sign : sign? zone = some (negative,
      padded 10 2 (number / 60) ++ (between ++ padded 10 2 (number % 60)))) :
    offset? take zone = some (if negative then -(number : Int) else number) := by
  have hours := digits?_padded_append (fits_two (by omega : number / 60 < 100))
    (between ++ padded 10 2 (number % 60))
  have minutes : digits? 2 (padded 10 2 (number % 60)) = some (number % 60, []) := by
    simpa using digits?_padded_append (fits_two (by omega : number % 60 < 100)) []
  have bound : number % 60 ≤ 59 := by omega
  have parts : ((number / 60 : Nat) : Int) * 60 + (number % 60 : Nat) = number := by omega
  simp only [offset?, sign, hours, taken, minutes, bound, parts, Option.bind_eq_bind,
    Option.bind_some, List.isEmpty_nil, and_self, if_true]

/-- A distance is read back, whatever its sign. -/
theorem offset?_zoneText {between zone : List Char} {offset : Int}
    {take : List Char → Option (List Char)} (small : offset.natAbs < 6000)
    (taken : ∀ minutes, take (between ++ padded 10 2 minutes) = some (padded 10 2 minutes))
    (zoneText : ZoneText between offset zone) : offset? take zone = some offset := by
  cases zoneText with
  | east number => exact @offset?_of_sign between _ false number take (by omega) taken rfl
  | west number => exact @offset?_of_sign between _ true number take (by omega) taken rfl

theorem ZoneText.trimStart_eq {between zone : List Char} {offset : Int}
    (zoneText : ZoneText between offset zone) : trimStart zone = zone := by
  cases zoneText <;> rw [trimStart_cons, if_neg (by decide)]

theorem skipColon_padded (width number : Nat) :
    skipColon (padded 10 width number) = padded 10 width number := by
  have blank := trimStart_padded_append width number []
  have colon : expect? ':' (padded 10 width number ++ []) = none :=
    expect?_padded_append (by decide) []
  rw [List.append_nil] at blank colon
  rw [skipColon, blank, colon]

theorem skipColon_colon_padded (width number : Nat) :
    skipColon (':' :: padded 10 width number) = padded 10 width number := by
  have blank := trimStart_padded_append width number []
  rw [List.append_nil] at blank
  have colon : trimStart (':' :: padded 10 width number) = ':' :: padded 10 width number := by
    rw [trimStart_cons, if_neg (by decide)]
  rw [skipColon, colon, expect?_cons_self]
  exact blank

/-- The end of the strict form is read back. -/
theorem zone?_of_strictZone {zone : List Char} {offset : Int} (small : offset.natAbs < 6000)
    (strict : StrictZone offset zone) : zone? zone = some offset := by
  cases strict with
  | capital => rfl
  | small => rfl
  | offset zoneText =>
      have read := offset?_zoneText small (fun minutes => expect?_cons_self ':' _) zoneText
      cases zoneText <;> exact read

/-! ## Both forms -/

theorem looseNumber?_padded_append {number : Nat} (small : number < 100) (rest : List Char) :
    looseNumber? (padded 10 2 number ++ rest) = some (number, rest) := by
  rw [looseNumber?, trimStart_padded_append, number?_padded_append (fits_two small)]

theorem looseNumber?_space (text : List Char) :
    looseNumber? (' ' :: text) = looseNumber? text := by
  rw [looseNumber?, trimStart_cons, if_pos (by decide), looseNumber?]

/-- The lenient form is read up to the distance from universal time, whatever follows. -/
theorem readLoose?_clockText (narrow : time.Narrow) (rest : List Char) :
    readLoose? (clockText time (yearText time.date.year).toList ' ' rest) =
      (offset? (fun rest => some (skipColon rest)) (trimStart rest)).map fun offset =>
        { time with offset } := by
  simp only [readLoose?, clockText, looseYear?_yearText, expect?_cons_self, looseNumber?_space,
    looseNumber?_padded_append narrow.month, looseNumber?_padded_append narrow.day,
    looseNumber?_padded_append narrow.hour, looseNumber?_padded_append narrow.minute,
    looseNumber?_padded_append narrow.second, Option.bind_eq_bind, Option.bind_some]
  exact Option.map_eq_bind.symm

/-- A letter between date and time does not belong to the lenient form. -/
theorem readLoose?_clockText_of_letter {separator : Char} (narrow : time.Narrow)
    (letter : separator = 'T' ∨ separator = 't') (rest : List Char) :
    readLoose? (clockText time (yearText time.date.year).toList separator rest) = none := by
  have noNumber (text : List Char) : looseNumber? (separator :: text) = none := by
    obtain rfl | rfl := letter
    · rw [looseNumber?, trimStart_cons, if_neg (by decide),
        number?_cons_of_not_isDigit (by decide)]
    · rw [looseNumber?, trimStart_cons, if_neg (by decide),
        number?_cons_of_not_isDigit (by decide)]
  simp only [readLoose?, clockText, looseYear?_yearText, expect?_cons_self, noNumber,
    looseNumber?_padded_append narrow.month, looseNumber?_padded_append narrow.day,
    Option.bind_eq_bind, Option.bind_some, Option.bind_none]

/-- The strict form is read up to the fraction of a second, whatever follows. -/
theorem readStrict?_clockText {separator : Char} (narrow : time.Narrow)
    (four : 0 ≤ time.date.year ∧ time.date.year ≤ 9999)
    (between : separator = 'T' ∨ separator = 't' ∨ separator = ' ') (rest : List Char) :
    readStrict? (clockText time (padded 10 4 time.date.year.toNat) separator rest) =
      ((skipFraction? rest).bind zone?).map fun offset => { time with offset } := by
  have year : Fits 4 time.date.year.toNat := fits_four (by omega)
  have back : (time.date.year.toNat : Int) = time.date.year := Int.toNat_of_nonneg four.1
  have taken (text : List Char) : ((expect? 'T' (separator :: text)).or
      (expect? 't' (separator :: text))).or (expect? ' ' (separator :: text)) = some text := by
    obtain rfl | rfl | rfl := between <;> rfl
  simp only [readStrict?, clockText, digits?_padded_append year, expect?_cons_self,
    digits?_padded_append (fits_two narrow.month), digits?_padded_append (fits_two narrow.day),
    digits?_padded_append (fits_two narrow.hour), digits?_padded_append (fits_two narrow.minute),
    digits?_padded_append (fits_two narrow.second), taken, back, Option.bind_eq_bind,
    Option.bind_some]
  rw [Option.map_eq_bind, Option.bind_assoc]
  rfl

/-- The zone of the strict form begins with a letter or a sign. -/
theorem StrictZone.exists_eq_cons {offset : Int} {zone : List Char}
    (strict : StrictZone offset zone) :
    ∃ head tail, zone = head :: tail ∧
      (head = 'Z' ∨ head = 'z' ∨ head = '+' ∨ head = '-') := by
  cases strict with
  | capital => exact ⟨_, _, rfl, by simp⟩
  | small => exact ⟨_, _, rfl, by simp⟩
  | offset zoneText => cases zoneText <;> exact ⟨_, _, rfl, by simp⟩

theorem skipFraction?_append {offset : Int} {fraction zone : List Char}
    (fractionText : FractionText fraction) (strict : StrictZone offset zone) :
    skipFraction? (fraction ++ zone) = some zone := by
  obtain ⟨head, tail, rfl, heads⟩ := strict.exists_eq_cons
  have noDigit : head.isDigit = false ∧ head ≠ '.' := by
    obtain rfl | rfl | rfl | rfl := heads <;> decide
  cases fractionText with
  | none => rw [List.nil_append, skipFraction?, expect?_cons_of_ne noDigit.2]
  | digits present allDigits =>
      rw [List.cons_append, skipFraction?, expect?_cons_self]
      exact congrArg (Option.map (·.2))
        (longNumber?_append_cons present allDigits noDigit.1 tail)

/-- What is behind the seconds of the strict form is either no distance in the lenient form, or
the same one. -/
theorem offset?_fraction_append {offset : Int} {fraction zone : List Char}
    (small : offset.natAbs < 6000) (fractionText : FractionText fraction)
    (strict : StrictZone offset zone) :
    offset? (fun rest => some (skipColon rest)) (trimStart (fraction ++ zone)) = none ∨
      offset? (fun rest => some (skipColon rest)) (trimStart (fraction ++ zone)) =
        some offset := by
  cases fractionText with
  | digits present allDigits =>
      rw [List.cons_append, trimStart_cons, if_neg (by decide)]
      exact .inl rfl
  | none =>
      cases strict with
      | capital => exact .inl rfl
      | small => exact .inl rfl
      | offset zoneText =>
          rw [List.nil_append, zoneText.trimStart_eq]
          exact .inr (offset?_zoneText small
            (fun minutes => congrArg some (skipColon_colon_padded 2 minutes)) zoneText)

/-- What is written for a local time is read as it in one of the two forms, and as no other time
in the other form. -/
theorem WrittenAs.reads (narrow : time.Narrow) (writtenAs : time.WrittenAs written) :
    readLoose? written = some time ∧ readStrict? written = none ∨
      (readLoose? written = none ∨ readLoose? written = some time) ∧
        readStrict? written = some time := by
  cases writtenAs with
  | @git zone zoneText =>
      -- The strict form fails at a sign or, behind the seconds, at the space.
      refine .inl ⟨?_, ?_⟩
      · have read : offset? (fun rest => some (skipColon rest)) zone = some time.offset :=
          offset?_zoneText narrow.offset
            (fun minutes => congrArg some (skipColon_padded 2 minutes)) zoneText
        rw [readLoose?_clockText narrow, trimStart_cons, if_pos (by decide),
          zoneText.trimStart_eq, read]
        rfl
      · by_cases four : 0 ≤ time.date.year ∧ time.date.year ≤ 9999
        · rw [yearText_of_four four, readStrict?_clockText narrow four (by simp)]
          rfl
        · rw [yearText_of_signed four, clockText, List.cons_append, readStrict?,
            digits?_cons_of_not_isDigit (by split <;> decide) (by decide)]
          rfl
  | @rfc3339 separator fraction zone four between fractionText strict =>
      refine .inr ⟨?_, ?_⟩
      · rw [← yearText_of_four four]
        obtain letter | letter | rfl := between
        · exact .inl (readLoose?_clockText_of_letter narrow (.inl letter) _)
        · exact .inl (readLoose?_clockText_of_letter narrow (.inr letter) _)
        · rw [readLoose?_clockText narrow]
          obtain none | same := offset?_fraction_append narrow.offset fractionText strict
          · exact .inl (by rw [none]; rfl)
          · exact .inr (by rw [same]; rfl)
      · rw [readStrict?_clockText narrow four between, skipFraction?_append fractionText strict,
          Option.bind_some, zone?_of_strictZone narrow.offset strict]
        rfl

/-- What is written for a local time gives its minute. -/
theorem WrittenAs.read?_eq (narrow : time.Narrow) (writtenAs : time.WrittenAs written) :
    Timestamp.read? written = time.accept? := by
  obtain ⟨loose, strict⟩ | ⟨loose | loose, strict⟩ := writtenAs.reads narrow <;>
    rw [Timestamp.read?, loose, strict] <;> cases accepted : time.accept? <;> simp [accepted]

end Imprint.LocalTime
