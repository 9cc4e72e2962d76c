import Imprint.Error
import Imprint.Text.Scan
import Imprint.Time.Calendar

/-!
# Timestamps

Dates of commits are read in two forms.  The first is lenient: parts are separated by hyphens,
colons and any white space, and numbers need not be filled up with zeros.  The second has fixed
widths, an optional fraction of a second and may name universal time by a letter.  Both are
brought to universal time and written with minute precision.
-/

namespace Imprint

open Text
open Calendar (Date)

/-- A minute of universal time, counted from the start of 1970. -/
structure Timestamp where
  minutes : Int
  deriving DecidableEq

/-- A local date and time with its distance from universal time in minutes. -/
structure LocalTime where
  date : Date
  hour : Nat
  minute : Nat
  second : Nat
  offset : Int
  deriving DecidableEq

namespace Timestamp

/-- The first year of the calendar. -/
def firstYear : Int := -262143

/-- The last year of the calendar. -/
def lastYear : Int := 262142

/-- The day of a timestamp. -/
def date (timestamp : Timestamp) : Date := Date.ofDays (timestamp.minutes / 1440)

/-- The minute of the day of a timestamp. -/
def minuteOfDay (timestamp : Timestamp) : Nat := (timestamp.minutes % 1440).toNat

/-- Whether a year lies within the calendar. -/
def inCalendar (year : Int) : Bool := firstYear ≤ year && year ≤ lastYear

/-- A year with at least four digits, and with a sign unless it has exactly four. -/
def yearText (year : Int) : String :=
  if 0 ≤ year ∧ year ≤ 9999 then decimal 4 year.toNat
  else (if year < 0 then "-" else "+") ++ decimal 4 year.natAbs

/-- A timestamp in the form that sorts like time and can be part of a file name. -/
def toText (timestamp : Timestamp) : String :=
  let date := timestamp.date
  yearText date.year ++ "-" ++ decimal 2 date.month ++ "-" ++ decimal 2 date.day ++ "-" ++
    decimal 2 (timestamp.minuteOfDay / 60) ++ decimal 2 (timestamp.minuteOfDay % 60)

/-- The minute that a number of seconds since the start of 1970 falls in. -/
def ofSeconds (seconds : Int) : Timestamp := ⟨seconds / 60⟩

end Timestamp

namespace LocalTime

/-- Whether a local time exists.  A minute may have a leap second, and the distance from universal
time is less than a day. -/
def isValid (time : LocalTime) : Bool :=
  time.date.isValid && Timestamp.inCalendar time.date.year && time.hour ≤ 23 &&
    time.minute ≤ 59 && time.second ≤ 60 && time.offset.natAbs < 1440

/-- The minute of universal time. -/
def toTimestamp (time : LocalTime) : Timestamp :=
  ⟨time.date.toDays * 1440 + time.hour * 60 + time.minute - time.offset⟩

/-- Whether a sign is negative; the mathematical minus sign counts. -/
def sign? : List Char → Option (Bool × List Char)
  | [] => none
  | c :: rest =>
      if c == '+' then some (false, rest)
      else if c == '-' || c == '\u2212' then some (true, rest)
      else none

/-- The text after an optional colon, with white space around it. -/
def skipColon (text : List Char) : List Char :=
  let rest := trimStart text
  match expect? ':' rest with
  | some rest => trimStart rest
  | none => rest

/-- A distance from universal time in minutes, which ends the text; `between` takes what may stand
between hours and minutes. -/
def offset? (between : List Char → Option (List Char)) (text : List Char) : Option Int := do
  let (negative, rest) ← sign? text
  let (hours, rest) ← digits? 2 rest
  let (minutes, rest) ← digits? 2 (← between rest)
  if minutes ≤ 59 ∧ rest.isEmpty then
    let offset : Int := hours * 60 + minutes
    some (if negative then -offset else offset)
  else none

/-- A number of one or two digits with white space before it. -/
def looseNumber? (text : List Char) : Option (Nat × List Char) := number? 2 (trimStart text)

/-- A year with white space before it: up to four digits, or any number of digits after a sign. -/
def looseYear? (text : List Char) : Option (Int × List Char) :=
  match trimStart text with
  | '-' :: rest => (longNumber? rest).map fun (year, rest) => (-(year : Int), rest)
  | '+' :: rest => (longNumber? rest).map fun (year, rest) => ((year : Int), rest)
  | rest => (number? 4 rest).map fun (year, rest) => ((year : Int), rest)

/-- Reads the lenient form. -/
def readLoose? (text : List Char) : Option LocalTime := do
  let (year, rest) ← looseYear? text
  let (month, rest) ← looseNumber? (← expect? '-' rest)
  let (day, rest) ← looseNumber? (← expect? '-' rest)
  let (hour, rest) ← looseNumber? rest
  let (minute, rest) ← looseNumber? (← expect? ':' rest)
  let (second, rest) ← looseNumber? (← expect? ':' rest)
  let offset ← offset? (fun rest => some (skipColon rest)) (trimStart rest)
  some ⟨⟨year, month, day⟩, hour, minute, second, offset⟩

/-- The text after a fraction of a second, if there is one. -/
def skipFraction? (text : List Char) : Option (List Char) :=
  match expect? '.' text with
  | some rest => (longNumber? rest).map (·.2)
  | none => some text

/-- The end of the strict form: a letter for universal time, or a distance with a colon. -/
def zone? : List Char → Option Int
  | ['Z'] => some 0
  | ['z'] => some 0
  | text => offset? (expect? ':') text

/-- Reads the strict form. -/
def readStrict? (text : List Char) : Option LocalTime := do
  let (year, rest) ← digits? 4 text
  let (month, rest) ← digits? 2 (← expect? '-' rest)
  let (day, rest) ← digits? 2 (← expect? '-' rest)
  let rest ← ((expect? 'T' rest).or (expect? 't' rest)).or (expect? ' ' rest)
  let (hour, rest) ← digits? 2 rest
  let (minute, rest) ← digits? 2 (← expect? ':' rest)
  let (second, rest) ← digits? 2 (← expect? ':' rest)
  let offset ← zone? (← skipFraction? rest)
  some ⟨⟨year, month, day⟩, hour, minute, second, offset⟩

/-- The local time that a text gives, if it exists and lies within the calendar. -/
def accept? (time : LocalTime) : Option Timestamp :=
  let timestamp := time.toTimestamp
  if time.isValid && Timestamp.inCalendar timestamp.date.year then some timestamp else none

end LocalTime

namespace Timestamp

/-- The timestamp of a text in either form. -/
def read? (text : List Char) : Option Timestamp :=
  ((LocalTime.readLoose? text).bind LocalTime.accept?).or
    ((LocalTime.readStrict? text).bind LocalTime.accept?)

end Timestamp

/-- The date of a commit in universal time.  White space around it does not matter. -/
def normalizeDate (raw : String) : Except Error String :=
  let text := trim raw.toList
  match Timestamp.read? text with
  | some timestamp => .ok timestamp.toText
  | none => .error (.invalidDate .commitDate (String.ofList text))

end Imprint
