import Imprint.Time.Calendar
import Mathlib.Tactic.IntervalCases

/-!
# Numbered days

Days are numbered one after another: 1970-01-01 is day zero, and the day after a date has the next
number.  Every number belongs to exactly one date that exists, and dates are in the order of their
numbers.
-/

namespace Imprint.Calendar

theorem isLeap_iff {year : Int} :
    isLeap year = true ↔ year % 4 = 0 ∧ (year % 100 ≠ 0 ∨ year % 400 = 0) := by
  simp [isLeap]

namespace Date

variable {date : Date} {year day : Int}

theorem isValid_iff :
    date.isValid = true ↔ (1 ≤ date.month ∧ date.month ≤ 12) ∧
      1 ≤ date.day ∧ date.day ≤ daysInMonth date.year date.month := by
  simp [isValid, and_assoc]

/-- The day after a date. -/
def next (date : Date) : Date :=
  if date.day < daysInMonth date.year date.month then { date with day := date.day + 1 }
  else if date.month < 12 then ⟨date.year, date.month + 1, 1⟩
  else ⟨date.year + 1, 1, 1⟩

/-- Whether a date comes before another one, by year, month and day. -/
def Before (first second : Date) : Prop :=
  first.year < second.year ∨ first.year = second.year ∧
    (first.month < second.month ∨ first.month = second.month ∧ first.day < second.day)

/-! ## Years from March -/

/-- The year of a date if years begin in March. -/
def marchYear (date : Date) : Int := if date.month ≤ 2 then date.year - 1 else date.year

/-- The number of days of all years before a year. -/
def yearDays (year : Int) : Int := 365 * year + year / 4 - year / 100 + year / 400

/-- The number of a month if years begin in March, which is month zero. -/
def marchMonth (month : Nat) : Int := ((month : Int) + 9) % 12

/-- The number of days of a year that begins in March before a month. -/
def monthDays (month : Int) : Int := (153 * month + 2) / 5

/-- The month that a day of a year that begins in March lies in. -/
def monthOf (day : Int) : Int := (5 * day + 2) / 153

/-- The date of a day of a year that begins in March. -/
def ofMarch (year day : Int) : Date :=
  let month := monthOf day
  ⟨if month < 10 then year else year + 1, (if month < 10 then month + 3 else month - 9).toNat,
    (day - monthDays month + 1).toNat⟩

/-- Whether a year that begins in March has a day, the first being day zero.  The last day of a
leap year is a 29th of February. -/
def InYear (year day : Int) : Prop :=
  0 ≤ day ∧ (day ≤ 364 ∨ day = 365 ∧ isLeap (year + 1) = true)

/-- Cycles of 400 years add up to the days of all years. -/
theorem toDays_eq (date : Date) :
    date.toDays =
      yearDays date.marchYear + monthDays (marchMonth date.month) + date.day - 719469 := by
  simp only [toDays, yearDays, marchYear, monthDays, marchMonth]
  omega

theorem yearDays_succ (year : Int) :
    yearDays year = yearDays (year - 1) + if isLeap year then 366 else 365 := by
  simp only [yearDays]
  split
  · next leap =>
      rw [isLeap_iff] at leap
      omega
  · next common =>
      rw [isLeap_iff] at common
      omega

/-- Every month but February has as many days as lie between its beginning and the next one's. -/
theorem monthDays_succ {month : Nat} (one : 1 ≤ month) (twelve : month ≤ 12)
    (notFebruary : month ≠ 2) (year : Int) :
    monthDays (marchMonth month + 1) =
      monthDays (marchMonth month) + daysInMonth year month := by
  interval_cases month <;> first | rfl | contradiction

/-- A day lies in a month if it comes neither before its beginning nor after its end. -/
theorem monthOf_eq_iff {month : Int} :
    monthOf day = month ↔ monthDays month ≤ day ∧ day < monthDays (month + 1) := by
  rw [monthOf, monthDays, monthDays]
  omega

/-- The months are numbered from zero to eleven. -/
theorem monthOf_range (inYear : InYear year day) : 0 ≤ monthOf day ∧ monthOf day ≤ 11 := by
  rw [InYear] at inYear
  rw [monthOf]
  omega

theorem month_ofMarch (inYear : InYear year day) :
    1 ≤ (ofMarch year day).month ∧ (ofMarch year day).month ≤ 12 ∧
      marchMonth (ofMarch year day).month = monthOf day := by
  have range := monthOf_range inYear
  simp only [ofMarch, marchMonth]
  generalize monthOf day = month at range ⊢
  split <;> omega

theorem marchYear_ofMarch (inYear : InYear year day) : (ofMarch year day).marchYear = year := by
  obtain ⟨one, twelve, same⟩ := month_ofMarch inYear
  have begins : (ofMarch year day).year = if monthOf day < 10 then year else year + 1 := rfl
  rw [marchMonth] at same
  rw [marchYear, begins]
  split <;> split <;> omega

theorem day_ofMarch (year day : Int) :
    ((ofMarch year day).day : Int) = day - monthDays (monthOf day) + 1 := by
  have first := (monthOf_eq_iff.mp (Eq.refl (monthOf day))).1
  simp only [ofMarch]
  omega

theorem toDays_ofMarch (inYear : InYear year day) :
    (ofMarch year day).toDays = yearDays year + day - 719468 := by
  rw [toDays_eq, marchYear_ofMarch inYear, (month_ofMarch inYear).2.2, day_ofMarch]
  omega

theorem isValid_ofMarch (inYear : InYear year day) : (ofMarch year day).isValid = true := by
  obtain ⟨one, twelve, same⟩ := month_ofMarch inYear
  have inMonth := monthOf_eq_iff.mp (Eq.refl (monthOf day))
  have number := day_ofMarch year day
  rw [isValid_iff]
  refine ⟨⟨one, twelve⟩, by omega, ?_⟩
  by_cases february : (ofMarch year day).month = 2
  · have eleven : monthOf day = 11 := by rw [← same, february]; rfl
    have nextYear : (ofMarch year day).year = year + 1 := by simp [ofMarch, eleven]
    have begins : monthDays 11 = 337 := rfl
    rw [eleven, begins] at number
    rw [february, nextYear, daysInMonth]
    obtain ⟨-, common | ⟨last, leap⟩⟩ := inYear
    · split <;> omega
    · rw [if_pos leap]
      omega
  · have length := monthDays_succ one twelve february (ofMarch year day).year
    rw [same] at length
    omega

/-- The days of February end a year that begins in March. -/
theorem inYear_of_valid (valid : date.isValid = true) :
    InYear date.marchYear (monthDays (marchMonth date.month) + date.day - 1) ∧
      monthOf (monthDays (marchMonth date.month) + date.day - 1) = marchMonth date.month := by
  obtain ⟨⟨one, twelve⟩, first, last⟩ := isValid_iff.mp valid
  rw [InYear, monthOf_eq_iff]
  by_cases february : date.month = 2
  · have begins : monthDays (marchMonth 2) = 337 := rfl
    have ends : monthDays (marchMonth 2 + 1) = 367 := rfl
    have thisYear : date.marchYear + 1 = date.year := by simp [marchYear, february]
    rw [february, daysInMonth] at last
    rw [february, begins, ends, thisYear]
    split at last <;> simp_all <;> omega
  · have length := monthDays_succ one twelve february date.year
    have range : 0 ≤ marchMonth date.month ∧ marchMonth date.month ≤ 10 := by
      rw [marchMonth]
      omega
    have begins : 0 ≤ monthDays (marchMonth date.month) := by
      rw [monthDays]
      omega
    have ends : monthDays (marchMonth date.month + 1) ≤ 337 := by
      rw [monthDays]
      omega
    omega

/-- Every date that exists is a day of a year that begins in March. -/
theorem eq_ofMarch (valid : date.isValid = true) :
    ofMarch date.marchYear (monthDays (marchMonth date.month) + date.day - 1) = date := by
  obtain ⟨inYear, inMonth⟩ := inYear_of_valid valid
  obtain ⟨⟨one, twelve⟩, -, -⟩ := isValid_iff.mp valid
  have years := marchYear_ofMarch inYear
  have days := day_ofMarch date.marchYear (monthDays (marchMonth date.month) + date.day - 1)
  obtain ⟨one', twelve', months⟩ := month_ofMarch inYear
  generalize ofMarch date.marchYear (monthDays (marchMonth date.month) + date.day - 1) = other at *
  rw [inMonth] at months days
  have month : other.month = date.month := by
    simp only [marchMonth] at months
    omega
  have year : other.year = date.year := by
    simp only [marchYear, month] at years
    split at years <;> omega
  have day : other.day = date.day := by omega
  cases other
  cases date
  cases month
  cases year
  cases day
  rfl

/-! ## The year of a day -/

/-- Centuries have 36524 days and four years 1461, apart from the last ones of a cycle. -/
theorem yearDays_parts {cycle century four year : Int} (centuries : 0 ≤ century ∧ century ≤ 3)
    (fours : 0 ≤ four ∧ four ≤ 24) (years : 0 ≤ year ∧ year ≤ 3) :
    yearDays (400 * cycle + 100 * century + 4 * four + year) =
      146097 * cycle + 36524 * century + 1461 * four + 365 * year := by
  rw [yearDays]
  omega

/-- Every day of a cycle is a day of one of its years. -/
theorem exists_parts {days : Int} (first : 0 ≤ days) (last : days < 146097) :
    ∃ century four year day : Int, (0 ≤ century ∧ century ≤ 3) ∧ (0 ≤ four ∧ four ≤ 24) ∧
      (0 ≤ year ∧ year ≤ 3) ∧ 0 ≤ day ∧
      (day ≤ 364 ∨ day = 365 ∧ year = 3 ∧ (four ≤ 23 ∨ century = 3)) ∧
      days = 36524 * century + 1461 * four + 365 * year + day := by
  by_cases leapDay : days % 36524 % 1461 = 1460
  · exact ⟨days / 36524, days % 36524 / 1461, 3, 365, by omega⟩
  · by_cases cycleEnd : days = 146096
    · exact ⟨3, 24, 3, 365, by omega⟩
    · exact ⟨days / 36524, days % 36524 / 1461, days % 36524 % 1461 / 365,
        days % 36524 % 1461 % 365, by omega⟩

/-- Every number is that of a day of a year. -/
theorem exists_inYear (days : Int) :
    ∃ year day, InYear year day ∧ days = yearDays year + day - 719468 := by
  have first : 0 ≤ (days + 719468) % 146097 := by omega
  have last : (days + 719468) % 146097 < 146097 := by omega
  obtain ⟨century, four, year, day, centuries, fours, years, nonneg, upper, parts⟩ :=
    exists_parts first last
  refine ⟨400 * ((days + 719468) / 146097) + 100 * century + 4 * four + year, day, ?_, ?_⟩
  · rw [InYear, isLeap_iff]
    omega
  · rw [yearDays_parts centuries fours years]
    omega

/-- The year of a cycle that a day of the cycle lies in. -/
def yearOfCycle (days : Int) : Int :=
  (days - days / 1460 + days / 36524 - days / 146096) / 365

/-- The date of a day of a year of a cycle, the year beginning in March. -/
def ofCycle (cycle year day : Int) : Date :=
  let month := if monthOf day < 10 then monthOf day + 3 else monthOf day - 9
  ⟨year + cycle * 400 + (if month ≤ 2 then 1 else 0), month.toNat,
    (day - monthDays (monthOf day) + 1).toNat⟩

theorem ofDays_eq_ofCycle (days : Int) :
    ofDays days =
      let year := yearOfCycle ((days + 719468) % 146097)
      ofCycle ((days + 719468) / 146097) year
        ((days + 719468) % 146097 - (365 * year + year / 4 - year / 100)) :=
  rfl

theorem ofCycle_eq (cycle year : Int) (range : 0 ≤ monthOf day ∧ monthOf day ≤ 11) :
    ofCycle cycle year day = ofMarch (year + cycle * 400) day := by
  simp only [ofCycle, ofMarch]
  generalize monthOf day = month at range ⊢
  rw [mk.injEq]
  refine ⟨?_, rfl, rfl⟩
  split <;> split <;> omega

/-- The year of a day of a cycle is found by taking the leap days away. -/
theorem yearOfCycle_eq {century four part : Int} (centuries : 0 ≤ century ∧ century ≤ 3)
    (fours : 0 ≤ four ∧ four ≤ 24) (years : 0 ≤ part ∧ part ≤ 3) (nonneg : 0 ≤ day)
    (upper : day ≤ 364 ∨ day = 365 ∧ part = 3 ∧ (four ≤ 23 ∨ century = 3)) {days : Int}
    (parts : days = 36524 * century + 1461 * four + 365 * part + day) :
    yearOfCycle days = 100 * century + 4 * four + part := by
  rw [yearOfCycle]
  by_cases cycleEnd : days = 146096
  · rw [cycleEnd] at parts ⊢
    omega
  · have lastDay : days / 146096 = 0 := by omega
    have inCentury : days / 36524 = century := by omega
    have leapDays : days / 1460 = 25 * century + four ∨
        days / 1460 = 25 * century + four + 1 ∧ 1 ≤ day := by omega
    omega

/-- Day numbers count the days of cycles of 400 years, of centuries, of four years and of years. -/
theorem ofDays_parts {cycle century four part : Int} (centuries : 0 ≤ century ∧ century ≤ 3)
    (fours : 0 ≤ four ∧ four ≤ 24) (years : 0 ≤ part ∧ part ≤ 3) (nonneg : 0 ≤ day)
    (upper : day ≤ 364 ∨ day = 365 ∧ part = 3 ∧ (four ≤ 23 ∨ century = 3)) {days : Int}
    (parts : days = 36524 * century + 1461 * four + 365 * part + day) :
    ofDays (146097 * cycle + days - 719468) =
      ofMarch (400 * cycle + 100 * century + 4 * four + part) day := by
  have small : 0 ≤ days ∧ days < 146097 := by omega
  have whole : (146097 * cycle + days - 719468 + 719468) / 146097 = cycle := by
    clear parts upper years
    omega
  have rest : (146097 * cycle + days - 719468 + 719468) % 146097 = days := by
    clear parts upper years
    omega
  have dayOfYear : days - (365 * (100 * century + 4 * four + part) +
      (100 * century + 4 * four + part) / 4 - (100 * century + 4 * four + part) / 100) = day := by
    omega
  have month : 0 ≤ monthOf day ∧ monthOf day ≤ 11 := by
    rw [monthOf]
    omega
  simp only [ofDays_eq_ofCycle, whole, rest, dayOfYear, ofCycle_eq cycle _ month,
    yearOfCycle_eq centuries fours years nonneg upper parts]
  congr 1
  omega

theorem ofDays_yearDays (inYear : InYear year day) :
    ofDays (yearDays year + day - 719468) = ofMarch year day := by
  rw [InYear, isLeap_iff] at inYear
  obtain ⟨cycle, century, four, part, centuries, fours, years, rfl⟩ :
      ∃ cycle century four part : Int, (0 ≤ century ∧ century ≤ 3) ∧ (0 ≤ four ∧ four ≤ 24) ∧
        (0 ≤ part ∧ part ≤ 3) ∧ year = 400 * cycle + 100 * century + 4 * four + part :=
    ⟨year / 400, year % 400 / 100, year % 100 / 4, year % 4, by omega⟩
  have upper : day ≤ 364 ∨ day = 365 ∧ part = 3 ∧ (four ≤ 23 ∨ century = 3) := by omega
  rw [yearDays_parts centuries fours years, ← ofDays_parts centuries fours years inYear.1 upper rfl]
  congr 1
  omega

/-! ## Numbers and dates -/

/-- Every number is that of a date. -/
theorem toDays_ofDays (days : Int) : (ofDays days).toDays = days := by
  obtain ⟨year, day, inYear, rfl⟩ := exists_inYear days
  rw [ofDays_yearDays inYear, toDays_ofMarch inYear]

theorem isValid_ofDays (days : Int) : (ofDays days).isValid = true := by
  obtain ⟨year, day, inYear, rfl⟩ := exists_inYear days
  rw [ofDays_yearDays inYear]
  exact isValid_ofMarch inYear

/-- Only one date that exists has a number. -/
theorem ofDays_toDays (valid : date.isValid = true) : ofDays date.toDays = date := by
  have inYear := (inYear_of_valid valid).1
  have days := toDays_ofMarch inYear
  rw [eq_ofMarch valid] at days
  rw [days, ofDays_yearDays inYear, eq_ofMarch valid]

theorem daysInMonth_pos (year : Int) (month : Nat) : 1 ≤ daysInMonth year month := by
  unfold daysInMonth
  repeat' split
  all_goals decide

theorem daysInMonth_le (year : Int) (month : Nat) : daysInMonth year month ≤ 31 := by
  unfold daysInMonth
  repeat' split
  all_goals decide

theorem isValid_next (valid : date.isValid = true) : date.next.isValid = true := by
  obtain ⟨months, first, last⟩ := isValid_iff.mp valid
  rw [next, isValid_iff]
  split
  · exact ⟨months, by simp, by assumption⟩
  · split
    · exact ⟨⟨by simp, by assumption⟩, le_refl 1, daysInMonth_pos _ _⟩
    · exact ⟨⟨le_refl 1, show 1 ≤ 12 by decide⟩, le_refl 1, daysInMonth_pos _ _⟩

/-- The day after a date has the next number. -/
theorem toDays_next (valid : date.isValid = true) : date.next.toDays = date.toDays + 1 := by
  obtain ⟨⟨one, twelve⟩, first, last⟩ := isValid_iff.mp valid
  rw [next]
  split
  · simp only [toDays_eq, marchYear]
    omega
  · have lastDay : date.day = daysInMonth date.year date.month := by omega
    by_cases february : date.month = 2
    · -- the year from March ends, whose length is that of the calendar year
      have begins : monthDays (marchMonth 2) = 337 ∧ monthDays (marchMonth 3) = 0 := ⟨rfl, rfl⟩
      have length := yearDays_succ date.year
      rw [february, daysInMonth] at lastDay
      simp only [toDays_eq, marchYear, february, lastDay, begins, if_true, Nat.reduceLT,
        Nat.reduceAdd, Nat.reduceLeDiff, if_false]
      rw [length]
      split <;> omega
    · split
      · have length := monthDays_succ one twelve february date.year
        have later : marchMonth (date.month + 1) = marchMonth date.month + 1 := by
          simp only [marchMonth]
          omega
        have sameYear : (⟨date.year, date.month + 1, 1⟩ : Date).marchYear = date.marchYear := by
          simp only [marchYear]
          split <;> split <;> omega
        simp only [toDays_eq, sameYear, later, length, lastDay]
        omega
      · have december : date.month = 12 := by omega
        have begins : monthDays (marchMonth 1) = monthDays (marchMonth 12) + 31 := rfl
        have thirtyOne : daysInMonth date.year 12 = 31 := rfl
        rw [december, thirtyOne] at lastDay
        simp only [toDays_eq, marchYear, december, lastDay, begins, Int.add_sub_cancel,
          Nat.reduceLeDiff, if_true, if_false]
        omega

theorem next_ofDays (days : Int) : (ofDays days).next = ofDays (days + 1) := by
  have valid := isValid_ofDays days
  rw [← ofDays_toDays (isValid_next valid), toDays_next valid, toDays_ofDays]

theorem before_next (date : Date) : date.Before date.next := by
  rw [next, Before]
  split
  · exact .inr ⟨rfl, .inr ⟨rfl, Nat.lt_succ_self _⟩⟩
  · split
    · exact .inr ⟨rfl, .inl (Nat.lt_succ_self _)⟩
    · exact .inl (Int.lt_add_one_of_le (Int.le_refl _))

theorem Before.trans {first second third : Date} (earlier : first.Before second)
    (later : second.Before third) : first.Before third := by
  rw [Before] at *
  omega

/-- Dates are in the order of their numbers. -/
theorem before_of_lt {first second : Int} (less : first < second) :
    (ofDays first).Before (ofDays second) := by
  obtain ⟨more, rfl⟩ := Int.le.dest (Int.add_one_le_of_lt less)
  have step (days : Int) : (ofDays days).Before (ofDays (days + 1)) :=
    next_ofDays days ▸ before_next _
  induction more with
  | zero => simpa using step first
  | succ more ih =>
      have further : first + 1 + ((more + 1 : Nat) : Int) = first + 1 + more + 1 := by omega
      rw [further]
      exact (ih (by omega)).trans (step (first + 1 + more))

/-- Dates and their numbers, found by going from day to day from the start of 1970. -/
inductive Numbered : Date → Int → Prop
  | epoch : Numbered ⟨1970, 1, 1⟩ 0
  | next {date : Date} {days : Int} : Numbered date days → Numbered date.next (days + 1)
  | previous {date : Date} {days : Int} :
      date.isValid = true → Numbered date.next (days + 1) → Numbered date days

theorem numbered_ofDays (days : Int) : Numbered (ofDays days) days := by
  induction days using Int.induction_on with
  | zero => exact .epoch
  | succ days ih => exact next_ofDays days ▸ ih.next
  | pred days ih =>
      refine .previous (isValid_ofDays _) ?_
      rw [next_ofDays, Int.sub_add_cancel]
      exact ih

/-- The numbers that are found from day to day are those that are computed. -/
theorem numbered_iff : Numbered date day ↔ date.isValid = true ∧ date.toDays = day := by
  constructor
  · intro numbered
    induction numbered with
    | epoch => decide
    | next numbered ih => exact ⟨isValid_next ih.1, by rw [toDays_next ih.1, ih.2]⟩
    | previous valid numbered ih =>
        have days := toDays_next valid
        exact ⟨valid, by omega⟩
  · rintro ⟨valid, rfl⟩
    simpa [ofDays_toDays valid] using numbered_ofDays date.toDays

end Date
end Imprint.Calendar
