import Imprint.Proofs.Time.Written

/-!
# Dates of commits in universal time

A written date becomes the date, hour and minute of universal time that it is at.  Texts that are
at one instant become the same text, whatever their form and distance from universal time, and
later instants become later texts.
-/

namespace Imprint.LocalTime

open Text
open Calendar (Date)
open Timestamp (yearText)

variable {time : LocalTime} {written : List Char} {instant : Int}

/-- Whether a local time is at a second of universal time, counted from the start of 1970.  Its
date exists, its minute has no leap second, and it is less than a day from universal time. -/
structure IsAt (time : LocalTime) (instant : Int) : Prop where
  hour : time.hour < 24
  minute : time.minute < 60
  second : time.second < 60
  offset : -1440 < time.offset ∧ time.offset < 1440
  day : ∃ days, time.date.Numbered days ∧
    instant = 60 * (60 * (24 * days + time.hour) + time.minute - time.offset) + time.second

/-- Whether a time is that of a second in universal time. -/
structure IsUtc (utc : LocalTime) (instant : Int) : Prop extends utc.IsAt instant where
  universal : utc.offset = 0

/-- The date, the hour and the minute of a time, in this order and filled up with zeros. -/
def minuteText (time : LocalTime) : String :=
  yearText time.date.year ++ "-" ++ decimal 2 time.date.month ++ "-" ++
    decimal 2 time.date.day ++ "-" ++ decimal 2 time.hour ++ decimal 2 time.minute

/-- Whether a text is a date of the calendar that is at a second, in either form and with any
white space around it.  Fractions of the second are cut off. -/
def Denotes (text : String) (instant : Int) : Prop :=
  ∃ (time : LocalTime) (before written after : List Char),
    time.IsAt instant ∧ Timestamp.inCalendar time.date.year = true ∧ time.WrittenAs written ∧
      (∀ c ∈ before, isBlank c = true) ∧ (∀ c ∈ after, isBlank c = true) ∧
      text.toList = before ++ (written ++ after)

theorem IsAt.narrow (isAt : time.IsAt instant) : time.Narrow := by
  obtain ⟨days, numbered, -⟩ := isAt.day
  obtain ⟨⟨-, months⟩, -, dayOfMonth⟩ := Date.isValid_iff.mp (Date.numbered_iff.mp numbered).1
  have days := Date.daysInMonth_le time.date.year time.date.month
  have hour := isAt.hour
  have minute := isAt.minute
  have second := isAt.second
  have offset := isAt.offset
  constructor <;> omega

/-! ## White space around a date -/

/-- Whether a text neither begins nor ends with white space. -/
def Inked (text : List Char) : Prop :=
  (∃ head tail, text = head :: tail ∧ isBlank head = false) ∧
    ∃ init last, text = init ++ [last] ∧ isBlank last = false

theorem trim_append {before text after : List Char} (blankBefore : ∀ c ∈ before, isBlank c = true)
    (blankAfter : ∀ c ∈ after, isBlank c = true) (inked : Inked text) :
    trim (before ++ (text ++ after)) = text := by
  obtain ⟨⟨head, tail, begins, inkedHead⟩, init, last, ends, inkedLast⟩ := inked
  have start : trimStart (before ++ (text ++ after)) = text ++ after := by
    rw [trimStart, List.dropWhile_append_of_pos blankBefore, begins, List.cons_append,
      List.dropWhile_cons_of_neg (by simp [inkedHead])]
  have blankReverse : ∀ c ∈ after.reverse, isBlank c = true := fun c member =>
    blankAfter c (List.mem_reverse.mp member)
  rw [trim, start, trimEnd, List.reverse_append, List.dropWhile_append_of_pos blankReverse, ends,
    List.reverse_append, List.reverse_singleton, List.singleton_append,
    List.dropWhile_cons_of_neg (by simp [inkedLast]), List.reverse_cons, List.reverse_reverse]

/-- A numeral has a last digit. -/
theorem exists_padded_eq_append (width number : Nat) :
    ∃ digits digit, padded 10 width number = digits ++ [digit] ∧ isBlank digit = false := by
  obtain ⟨first, others, written, -⟩ := exists_padded_eq_cons width number
  have present : padded 10 width number ≠ [] := written ▸ List.cons_ne_nil first others
  exact ⟨_, _, (List.dropLast_concat_getLast present).symm,
    isBlank_of_isDigit (isDigit_of_mem_padded (List.getLast_mem present))⟩

theorem ZoneText.exists_eq_append {between zone : List Char} {offset : Int}
    (zoneText : ZoneText between offset zone) :
    ∃ init last, zone = init ++ [last] ∧ isBlank last = false := by
  have ends (sign : Char) (number : Nat) : ∃ init last,
      sign :: (padded 10 2 (number / 60) ++ (between ++ padded 10 2 (number % 60))) =
        init ++ [last] ∧ isBlank last = false := by
    obtain ⟨digits, digit, minutes, ink⟩ := exists_padded_eq_append 2 (number % 60)
    exact ⟨sign :: (padded 10 2 (number / 60) ++ (between ++ digits)), digit, by simp [minutes],
      ink⟩
  cases zoneText with
  | east number => exact ends '+' number
  | west number => exact ends '-' number

theorem StrictZone.exists_eq_append {zone : List Char} {offset : Int}
    (strict : StrictZone offset zone) :
    ∃ init last, zone = init ++ [last] ∧ isBlank last = false := by
  cases strict with
  | capital => exact ⟨[], 'Z', rfl, by decide⟩
  | small => exact ⟨[], 'z', rfl, by decide⟩
  | offset zoneText => exact zoneText.exists_eq_append

theorem yearText_begins (year : Int) :
    ∃ head tail, (yearText year).toList = head :: tail ∧ isBlank head = false := by
  by_cases four : 0 ≤ year ∧ year ≤ 9999
  · obtain ⟨digit, digits, written, isDigit⟩ := exists_padded_eq_cons 4 year.toNat
    exact ⟨digit, digits, (yearText_of_four four).trans written, isBlank_of_isDigit isDigit⟩
  · exact ⟨_, _, yearText_of_signed four, by split <;> decide⟩

theorem inked_clockText {separator : Char} {rest init : List Char} {last : Char}
    (ends : rest = init ++ [last]) (ink : isBlank last = false) :
    Inked (clockText time (yearText time.date.year).toList separator rest) := by
  obtain ⟨head, tail, year, inkedHead⟩ := yearText_begins time.date.year
  constructor
  · rw [clockText, year]
    exact ⟨head, _, rfl, inkedHead⟩
  · refine ⟨clockText time (yearText time.date.year).toList separator init, last, ?_, ink⟩
    simp [clockText, ends]

theorem WrittenAs.inked (writtenAs : time.WrittenAs written) : Inked written := by
  cases writtenAs with
  | @git zone zoneText =>
      obtain ⟨init, last, ends, ink⟩ := zoneText.exists_eq_append
      have space : ' ' :: zone = ' ' :: init ++ [last] := by rw [ends, List.cons_append]
      exact inked_clockText space ink
  | @rfc3339 separator fraction zone four between fractionText strict =>
      obtain ⟨init, last, ends, ink⟩ := strict.exists_eq_append
      rw [← yearText_of_four four]
      exact inked_clockText (ends ▸ (List.append_assoc fraction init [last]).symm) ink

/-! ## Instants -/

theorem IsAt.toTimestamp_eq (isAt : time.IsAt instant) :
    time.toTimestamp = Timestamp.ofSeconds instant := by
  obtain ⟨days, numbered, rfl⟩ := isAt.day
  have number := (Date.numbered_iff.mp numbered).2
  have second := isAt.second
  rw [toTimestamp, Timestamp.ofSeconds, number, Timestamp.mk.injEq]
  omega

/-- A local time of the calendar is accepted unless universal time is in another year, which the
calendar does not have. -/
theorem IsAt.accept?_eq (isAt : time.IsAt instant)
    (known : Timestamp.inCalendar time.date.year = true) :
    time.accept? =
      if Timestamp.inCalendar (Timestamp.ofSeconds instant).date.year = true then
        some (Timestamp.ofSeconds instant)
      else none := by
  obtain ⟨days, numbered, -⟩ := isAt.day
  have valid := (Date.numbered_iff.mp numbered).1
  have hour := isAt.hour
  have minute := isAt.minute
  have second := isAt.second
  have offset := isAt.offset
  have isValid : time.isValid = true := by
    simp only [LocalTime.isValid, valid, known, Bool.and_eq_true, decide_eq_true_iff, true_and]
    omega
  rw [accept?, isAt.toTimestamp_eq, isValid, Bool.true_and]

/-- Every second has a time in universal time. -/
theorem exists_isUtc (instant : Int) : ∃ utc : LocalTime, utc.IsUtc instant := by
  refine ⟨⟨Date.ofDays (instant / 86400), (instant % 86400 / 3600).toNat,
    (instant % 3600 / 60).toNat, (instant % 60).toNat, 0⟩, ⟨?_, ?_, ?_, ?_, ?_⟩, rfl⟩
  · show (instant % 86400 / 3600).toNat < 24
    omega
  · show (instant % 3600 / 60).toNat < 60
    omega
  · show (instant % 60).toNat < 60
    omega
  · show (-1440 : Int) < 0 ∧ (0 : Int) < 1440
    decide
  · refine ⟨instant / 86400, Date.numbered_ofDays _, ?_⟩
    dsimp only
    omega

variable {utc : LocalTime}

/-- The day of a second is that of its time in universal time. -/
theorem IsUtc.date_eq (isUtc : utc.IsUtc instant) : utc.date = Date.ofDays (instant / 86400) := by
  obtain ⟨days, numbered, rfl⟩ := isUtc.day
  obtain ⟨valid, number⟩ := Date.numbered_iff.mp numbered
  have hour := isUtc.hour
  have minute := isUtc.minute
  have second := isUtc.second
  rw [isUtc.universal, ← Date.ofDays_toDays valid, number]
  congr 1
  omega

theorem IsUtc.minuteOfDay_eq (isUtc : utc.IsUtc instant) :
    60 * utc.hour + utc.minute = (instant / 60 % 1440).toNat := by
  obtain ⟨days, -, rfl⟩ := isUtc.day
  have hour := isUtc.hour
  have minute := isUtc.minute
  have second := isUtc.second
  rw [isUtc.universal]
  omega

theorem IsUtc.date_ofSeconds (isUtc : utc.IsUtc instant) :
    (Timestamp.ofSeconds instant).date = utc.date := by
  have days : instant / 60 / 1440 = instant / 86400 := by omega
  rw [isUtc.date_eq, ← days]
  rfl

theorem IsUtc.toText_ofSeconds (isUtc : utc.IsUtc instant) :
    (Timestamp.ofSeconds instant).toText = utc.minuteText := by
  have minutes := isUtc.minuteOfDay_eq
  have minute := isUtc.minute
  have sameMinute : (Timestamp.ofSeconds instant).minuteOfDay = 60 * utc.hour + utc.minute :=
    minutes.symm
  have hour : (Timestamp.ofSeconds instant).minuteOfDay / 60 = utc.hour := by omega
  have rest : (Timestamp.ofSeconds instant).minuteOfDay % 60 = utc.minute := by omega
  rw [Timestamp.toText, minuteText, isUtc.date_ofSeconds, hour, rest]

/-- A date becomes the minute of universal time that it is in. -/
theorem Denotes.normalizeDate_eq {text : String} (denotes : Denotes text instant)
    (isUtc : utc.IsUtc instant) :
    normalizeDate text =
      if Timestamp.inCalendar utc.date.year = true then .ok utc.minuteText
      else .error (.invalidDate .commitDate (String.ofList (trim text.toList))) := by
  obtain ⟨time, before, written, after, isAt, known, writtenAs, blankBefore, blankAfter, parts⟩ :=
    denotes
  rw [normalizeDate, parts, trim_append blankBefore blankAfter writtenAs.inked,
    writtenAs.read?_eq isAt.narrow, isAt.accept?_eq known, isUtc.date_ofSeconds]
  by_cases inCalendar : Timestamp.inCalendar utc.date.year = true
  · simp only [inCalendar, if_true, isUtc.toText_ofSeconds]
  · simp only [inCalendar, Bool.false_eq_true, if_false]

/-! ## Order -/

/-- The minute of a time, in the order of the calendar and the clock. -/
def EarlierMinute (first second : LocalTime) : Prop :=
  first.date.Before second.date ∨ first.date = second.date ∧
    (first.hour < second.hour ∨ first.hour = second.hour ∧ first.minute < second.minute)

theorem IsUtc.earlierMinute_or_eq {later : LocalTime} {instantLater : Int}
    (isUtc : utc.IsUtc instant) (isUtcLater : later.IsUtc instantLater)
    (order : instant ≤ instantLater) :
    utc.EarlierMinute later ∨ utc.minuteText = later.minuteText := by
  by_cases days : instant / 86400 < instantLater / 86400
  · rw [EarlierMinute, isUtc.date_eq, isUtcLater.date_eq]
    exact .inl (.inl (Date.before_of_lt days))
  · have sameDay : utc.date = later.date := by
      rw [isUtc.date_eq, isUtcLater.date_eq]
      congr 1
      omega
    have minutes := isUtc.minuteOfDay_eq
    have minutesLater := isUtcLater.minuteOfDay_eq
    have bounds := isUtc.minute
    have boundsLater := isUtcLater.minute
    by_cases same : utc.hour = later.hour ∧ utc.minute = later.minute
    · rw [minuteText, minuteText, sameDay, same.1, same.2]
      exact .inr rfl
    · exact .inl (.inr ⟨sameDay, by omega⟩)

theorem minuteText_toList (four : 0 ≤ time.date.year ∧ time.date.year ≤ 9999) :
    time.minuteText.toList =
      padded 10 4 time.date.year.toNat ++ '-' :: (padded 10 2 time.date.month ++
        '-' :: (padded 10 2 time.date.day ++ '-' :: (padded 10 2 time.hour ++
          padded 10 2 time.minute))) := by
  simp [minuteText, yearText_of_four four, decimal]

/-- Texts of years of four digits are in the order of time. -/
theorem EarlierMinute.minuteText_lt {first second : LocalTime}
    (earlier : first.EarlierMinute second) (narrow : second.Narrow)
    (fourFirst : 0 ≤ first.date.year ∧ first.date.year ≤ 9999)
    (fourSecond : 0 ≤ second.date.year ∧ second.date.year ≤ 9999) :
    first.minuteText < second.minuteText := by
  rw [String.lt_iff, minuteText_toList fourFirst, minuteText_toList fourSecond]
  have year : Fits 4 second.date.year.toNat := fits_four (by omega)
  have same (c : Char) {left right : List Char} (less : left < right) : c :: left < c :: right :=
    List.cons_lt_cons_iff.mpr (.inr ⟨rfl, less⟩)
  obtain (years | ⟨years, months | ⟨months, days⟩⟩) | ⟨dates, hours | ⟨hours, minutes⟩⟩ := earlier
  · exact padded_append_lt year (by omega) _ _
  · rw [years]
    exact List.append_left_lt (same _ (padded_append_lt (fits_two narrow.month) months _ _))
  · rw [years, months]
    exact List.append_left_lt (same _ (List.append_left_lt (same _
      (padded_append_lt (fits_two narrow.day) days _ _))))
  · rw [dates]
    exact List.append_left_lt (same _ (List.append_left_lt (same _ (List.append_left_lt (same _
      (padded_append_lt (fits_two narrow.hour) hours _ _))))))
  · rw [dates, hours]
    have last := padded_append_lt (fits_two narrow.minute) minutes [] []
    rw [List.append_nil, List.append_nil] at last
    exact List.append_left_lt (same _ (List.append_left_lt (same _ (List.append_left_lt (same _
      (List.append_left_lt last))))))

theorem IsUtc.minuteText_le {later : LocalTime} {instantLater : Int}
    (isUtc : utc.IsUtc instant) (isUtcLater : later.IsUtc instantLater)
    (order : instant ≤ instantLater) (four : 0 ≤ utc.date.year ∧ utc.date.year ≤ 9999)
    (fourLater : 0 ≤ later.date.year ∧ later.date.year ≤ 9999) :
    utc.minuteText ≤ later.minuteText := by
  obtain earlier | same := isUtc.earlierMinute_or_eq isUtcLater order
  · exact String.not_lt.mp (String.lt_asymm
      (earlier.minuteText_lt isUtcLater.narrow four fourLater))
  · exact same ▸ String.le_refl _

/-- What written dates become: the date, the hour and the minute of the instant in universal time.
The instant alone decides, not the form or the distance from universal time, and the texts of
years of four digits sort like time. -/
theorem normalizeDate_of_denotes {text other : String} {later : Int}
    (denotes : Denotes text instant) (denotesOther : Denotes other later) :
    (∃ utc : LocalTime, utc.IsUtc instant) ∧
      (∀ utc : LocalTime, utc.IsUtc instant → Timestamp.inCalendar utc.date.year = true →
        normalizeDate text = .ok utc.minuteText) ∧
      (instant = later →
        ∀ output, normalizeDate text = .ok output ↔ normalizeDate other = .ok output) ∧
      ∀ utc utcLater : LocalTime, utc.IsUtc instant → utcLater.IsUtc later →
        0 ≤ utc.date.year ∧ utc.date.year ≤ 9999 →
        0 ≤ utcLater.date.year ∧ utcLater.date.year ≤ 9999 → instant ≤ later →
        ∃ output outputLater, normalizeDate text = .ok output ∧
          normalizeDate other = .ok outputLater ∧ output ≤ outputLater := by
  have output (utc : LocalTime) (isUtc : utc.IsUtc instant)
      (known : Timestamp.inCalendar utc.date.year = true) :
      normalizeDate text = .ok utc.minuteText := by
    rw [denotes.normalizeDate_eq isUtc, if_pos known]
  have known {year : Int} (four : 0 ≤ year ∧ year ≤ 9999) :
      Timestamp.inCalendar year = true := by
    rw [Timestamp.inCalendar, Timestamp.firstYear, Timestamp.lastYear]
    simp only [Bool.and_eq_true, decide_eq_true_eq]
    omega
  refine ⟨exists_isUtc instant, output, ?_, ?_⟩
  · rintro rfl text'
    obtain ⟨utc, isUtc⟩ := exists_isUtc instant
    rw [denotes.normalizeDate_eq isUtc, denotesOther.normalizeDate_eq isUtc]
    split <;> simp
  · intro utc utcLater isUtc isUtcLater four fourLater order
    refine ⟨_, _, output utc isUtc (known four), ?_,
      isUtc.minuteText_le isUtcLater order four fourLater⟩
    rw [denotesOther.normalizeDate_eq isUtcLater, if_pos (known fourLater)]

/-- Half an hour before the end of a leap day, an hour and a half west of Greenwich, it is one
o'clock on the first of March in universal time. -/
theorem normalizeDate_of_denotes_leapDay :
    Denotes "2024-02-29 23:30:07 -0130\n" 1709254807 ∧
      Denotes "2024-03-01T01:00:07.25Z" 1709254807 ∧
      normalizeDate "2024-02-29 23:30:07 -0130\n" = .ok "2024-03-01-0100" ∧
      normalizeDate "2024-03-01T01:00:07.25Z" = .ok "2024-03-01-0100" := by
  have git : Denotes "2024-02-29 23:30:07 -0130\n" 1709254807 := by
    refine ⟨⟨⟨2024, 2, 29⟩, 23, 30, 7, -90⟩, [], _, ['\n'],
      ⟨by decide, by decide, by decide, by decide, 19782, ?_, by decide⟩, by decide,
      .git (.west 90), List.all_eq_true.mp rfl, List.all_eq_true.mp rfl, by decide +kernel⟩
    exact Date.numbered_iff.mpr ⟨by decide +kernel, by decide +kernel⟩
  have rfc3339 : Denotes "2024-03-01T01:00:07.25Z" 1709254807 := by
    refine ⟨⟨⟨2024, 3, 1⟩, 1, 0, 7, 0⟩, [], _, [],
      ⟨by decide, by decide, by decide, by decide, 19783, ?_, by decide⟩, by decide,
      .rfc3339 (by decide) (.inl rfl)
        (.digits (List.cons_ne_nil '2' ['5']) (List.all_eq_true.mp rfl)) .capital,
      List.all_eq_true.mp rfl, List.all_eq_true.mp rfl, by decide +kernel⟩
    exact Date.numbered_iff.mpr ⟨by decide +kernel, by decide +kernel⟩
  have utc : (⟨⟨2024, 3, 1⟩, 1, 0, 7, 0⟩ : LocalTime).IsUtc 1709254807 :=
    ⟨⟨by decide, by decide, by decide, by decide, 19783,
      Date.numbered_iff.mpr ⟨by decide +kernel, by decide +kernel⟩, by decide⟩, rfl⟩
  obtain ⟨-, output, same, -⟩ := normalizeDate_of_denotes git rfc3339
  have text : normalizeDate "2024-02-29 23:30:07 -0130\n" = .ok "2024-03-01-0100" :=
    (output _ utc (by decide)).trans (congrArg Except.ok (by decide +kernel))
  exact ⟨git, rfc3339, text, (same rfl _).mp text⟩

end Imprint.LocalTime
