import Imprint.Number.Numeral
import Imprint.Text.Scan
import Imprint.Time.Calendar
import Imprint.Toml.Value

/-!
# Strings, numbers and dates

Readers for the values without parts.  A reader takes a text and gives back what it read and the
rest of the text; strings count what an escape takes and skip that many characters.
-/

namespace Imprint.Toml

open Text

/-- Characters that stand between the parts of a line. -/
def isSpace (c : Char) : Bool := c == ' ' || c == '\t'

/-- Characters that comments and strings may hold as they are: all but control characters, the
tabulator excepted. -/
def isPlain (c : Char) : Bool := c == '\t' || (0x20 ≤ c.toNat && c != '\x7f')

/-- The character of a hexadecimal escape of the given length. -/
def codeEscape? (length : Nat) (text : List Char) : Option (Char × Nat) :=
  let digits := text.take length
  if digits.length = length then
    ((hexNumber? digits).bind scalar?).map fun char => (char, length + 1)
  else none

/-- The character that an escape stands for and the number of characters after the backslash. -/
def escape? : List Char → Option (Char × Nat)
  | 'b' :: _ => some ('\x08', 1)
  | 't' :: _ => some ('\t', 1)
  | 'n' :: _ => some ('\n', 1)
  | 'f' :: _ => some ('\x0c', 1)
  | 'r' :: _ => some ('\r', 1)
  | 'e' :: _ => some ('\x1b', 1)
  | '"' :: _ => some ('"', 1)
  | '\\' :: _ => some ('\\', 1)
  | 'x' :: rest => codeEscape? 2 rest
  | 'u' :: rest => codeEscape? 4 rest
  | 'U' :: rest => codeEscape? 8 rest
  | _ => none

/-- What was read of a string and the text after its closing quotes. -/
abbrev Read := List Char × List Char

/-- A character in front of what is read after it. -/
def Read.cons (c : Char) (read : Read) : Read := (c :: read.1, read.2)

/-- A string between double quotes, after the opening one and `skip` more characters. -/
def basicFrom : Nat → List Char → Option Read
  | _, [] => none
  | skip + 1, _ :: rest => basicFrom skip rest
  | 0, c :: rest =>
      if c == '"' then some ([], rest)
      else if c == '\\' then
        match escape? rest with
        | some (char, length) => (basicFrom length rest).map (Read.cons char)
        | none => none
      else if isPlain c then (basicFrom 0 rest).map (Read.cons c)
      else none

/-- A string between single quotes, after the opening one. -/
def literalFrom : List Char → Option Read
  | [] => none
  | c :: rest =>
      if c == '\'' then some ([], rest)
      else if isPlain c then (literalFrom rest).map (Read.cons c)
      else none

/-- The number of leading white-space characters and line breaks. -/
def blankRun (text : List Char) : Nat :=
  (text.takeWhile fun c => isSpace c || c == '\n' || c == '\r').length

/-- How many characters a backslash at the end of a line takes along: the line break and all the
white space around it. -/
def lineJoin? (text : List Char) : Option Nat :=
  match text.dropWhile isSpace with
  | '\n' :: _ => some (blankRun text)
  | '\r' :: '\n' :: _ => some (blankRun text)
  | _ => none

/-- How a run of quotes ends a string of several lines: up to two quotes belong to the string. -/
def closing? (quote : Char) (text : List Char) : Option Read :=
  let count := min 5 (text.takeWhile (· == quote)).length
  if 3 ≤ count then some (List.replicate (count - 3) quote, text.drop count) else none

/-- A string of several lines between triple double quotes, after the opening ones and `skip` more
characters. -/
def basicLinesFrom : Nat → List Char → Option Read
  | _, [] => none
  | skip + 1, _ :: rest => basicLinesFrom skip rest
  | 0, c :: rest =>
      match closing? '"' (c :: rest) with
      | some read => some read
      | none =>
          if c == '\\' then
            match lineJoin? rest with
            | some length => basicLinesFrom length rest
            | none =>
                match escape? rest with
                | some (char, length) => (basicLinesFrom length rest).map (Read.cons char)
                | none => none
          else if c == '\n' || isPlain c || (c == '\r' && rest.head? == some '\n') then
            (basicLinesFrom 0 rest).map (Read.cons c)
          else none

/-- A string of several lines between triple single quotes, after the opening ones. -/
def literalLinesFrom : List Char → Option Read
  | [] => none
  | c :: rest =>
      match closing? '\'' (c :: rest) with
      | some read => some read
      | none =>
          if c == '\n' || isPlain c || (c == '\r' && rest.head? == some '\n') then
            (literalLinesFrom rest).map (Read.cons c)
          else none

/-- A text without the line break that it starts with. -/
def dropLineBreak : List Char → List Char
  | '\n' :: rest => rest
  | '\r' :: '\n' :: rest => rest
  | text => text

/-- A string on one line. -/
def simpleString? : List Char → Option Read
  | '"' :: rest => basicFrom 0 rest
  | '\'' :: rest => literalFrom rest
  | _ => none

/-- A string of any kind. -/
def string? : List Char → Option Read
  | '"' :: '"' :: '"' :: rest => basicLinesFrom 0 (dropLineBreak rest)
  | '\'' :: '\'' :: '\'' :: rest => literalLinesFrom (dropLineBreak rest)
  | text => simpleString? text

/-! ## Numbers -/

/-- Digits without the single underscores between them. -/
def ungroup (isDigit : Char → Bool) : List Char → Option (List Char)
  | [] => none
  | [c] => if isDigit c then some [c] else none
  | c :: '_' :: rest => if isDigit c then (ungroup isDigit rest).map (c :: ·) else none
  | c :: next :: rest =>
      if isDigit c then (ungroup isDigit (next :: rest)).map (c :: ·) else none

/-- An integer within 64 bits. -/
def bounded? (number : Int) : Option Value :=
  if -Int.pow 2 63 ≤ number ∧ number < Int.pow 2 63 then some (.integer number) else none

/-- The digits of the integral part of a number, which has no needless zero in front. -/
def integralDigits? (word : List Char) : Option (List Char) :=
  (ungroup Char.isDigit word).bind fun digits =>
    if digits.head? == some '0' && digits.length != 1 then none else some digits

/-- The value of a numeral in a base up to sixteen. -/
def baseNumber? (base : Nat) (word : List Char) : Option Nat :=
  let isDigit := fun c => (hexValue? c).any (· < base)
  (ungroup isDigit word).map fun digits =>
    digits.foldl (fun number digit => number * base + (hexValue? digit).getD 0) 0

/-- An integer: decimal, or in another base behind a mark. -/
def integer? : List Char → Option Value
  | '0' :: 'x' :: digits => (baseNumber? 16 digits).bind fun number => bounded? number
  | '0' :: 'o' :: digits => (baseNumber? 8 digits).bind fun number => bounded? number
  | '0' :: 'b' :: digits => (baseNumber? 2 digits).bind fun number => bounded? number
  | word =>
      let (negative, body) := splitSign word
      (integralDigits? body).bind fun digits => bounded? (signedValue negative digits)

/-- The exponent of a number that ends with `text`; a number without one has exponent zero. -/
def exponent? : List Char → Option Int
  | [] => some 0
  | mark :: text =>
      if mark == 'e' || mark == 'E' then
        let (negative, body) := splitSign text
        (ungroup Char.isDigit body).map fun digits => signedValue negative digits
      else none

/-- A number with a fraction or an exponent. -/
def float? (word : List Char) : Option Value := do
  let (negative, body) := splitSign word
  if body = ['i', 'n', 'f'] then some (.float (.infinite negative))
  else if body = ['n', 'a', 'n'] then some (.float .notANumber)
  else
    let inNumeral := fun c : Char => c.isDigit || c == '_'
    let integral ← integralDigits? (body.takeWhile inNumeral)
    let rest := body.dropWhile inNumeral
    let (fraction, rest) ←
      match rest with
      | '.' :: tail =>
          (ungroup Char.isDigit (tail.takeWhile inNumeral)).map
            fun digits => (digits, tail.dropWhile inNumeral)
      | _ => some ([], rest)
    if fraction.isEmpty && rest.isEmpty then none
    else
      let power ← exponent? rest
      match Binary64.ofDecimal negative (value (integral ++ fraction))
          (power - fraction.length) with
      | .infinite _ => none
      | number => some (.float number)

/-! ## Dates and times -/

/-- A date and the rest of the text. -/
def date? (text : List Char) : Option (List Char × List Char) := do
  let (year, rest) ← digits? 4 text
  let rest ← expect? '-' rest
  let (month, rest) ← digits? 2 rest
  let rest ← expect? '-' rest
  let (day, rest) ← digits? 2 rest
  if (⟨year, month, day⟩ : Calendar.Date).isValid then some (text.take 10, rest) else none

/-- A fraction of a second, of which nine places count, and the rest of the text. -/
def secondFraction? : List Char → Option (List Char × List Char)
  | '.' :: text =>
      let digits := text.takeWhile Char.isDigit
      let kept := ((digits.take 9).reverse.dropWhile (· == '0')).reverse
      if digits.isEmpty then none
      else some (if kept.isEmpty then [] else '.' :: kept, text.dropWhile Char.isDigit)
  | text => some ([], text)

/-- The seconds of a time and the rest of the text; a time may end with its minutes. -/
def seconds? : List Char → Option (List Char × List Char)
  | ':' :: text => do
      let (second, rest) ← digits? 2 text
      let (fraction, rest) ← secondFraction? rest
      if second ≤ 60 then some (':' :: text.take 2 ++ fraction, rest) else none
  | text => some ([], text)

/-- A time of day and the rest of the text. -/
def time? (text : List Char) : Option (List Char × List Char) := do
  let (hour, rest) ← digits? 2 text
  let rest ← expect? ':' rest
  let (minute, rest) ← digits? 2 rest
  let (seconds, rest) ← seconds? rest
  if hour ≤ 23 ∧ minute ≤ 59 then some (text.take 5 ++ seconds, rest) else none

/-- The distance from universal time that ends a text, if it has one. -/
def zone? : List Char → Option (List Char)
  | [] => some []
  | sign :: text =>
      if sign == 'Z' || sign == 'z' then (if text.isEmpty then some ['Z'] else none)
      else if sign == '+' || sign == '-' then do
        let (hour, rest) ← digits? 2 text
        let rest ← expect? ':' rest
        let (minute, rest) ← digits? 2 rest
        let mark := if hour = 0 ∧ minute = 0 then '+' else sign
        if hour ≤ 23 ∧ minute ≤ 59 ∧ rest.isEmpty then some (mark :: text) else none
      else none

/-- A date, a time or both, in normal form. -/
def moment? (word : List Char) : Option Value :=
  match date? word with
  | some (date, []) => some (.moment (String.ofList date))
  | some (date, mark :: rest) =>
      if mark == 'T' || mark == 't' || mark == ' ' then do
        let (time, rest) ← time? rest
        let zone ← zone? rest
        some (.moment (String.ofList (date ++ 'T' :: time ++ zone)))
      else none
  | none =>
      match time? word with
      | some (time, []) => some (.moment (String.ofList time))
      | _ => none

/-! ## Words -/

/-- Characters of numbers, dates and truth values. -/
def inWord (c : Char) : Bool :=
  c.isAlphanum || c == '+' || c == '-' || c == '_' || c == '.' || c == ':'

/-- The word at the head of a text and the rest.  A space between a date and a time belongs to
the word. -/
def splitWord (text : List Char) : List Char × List Char :=
  let word := text.takeWhile inWord
  match text.dropWhile inWord with
  | ' ' :: c :: rest =>
      if (date? word).any (·.2.isEmpty) && c.isDigit then
        (word ++ ' ' :: (c :: rest).takeWhile inWord, (c :: rest).dropWhile inWord)
      else (word, ' ' :: c :: rest)
  | rest => (word, rest)

/-- The value of a word. -/
def wordValue? (word : List Char) : Option Value :=
  if word = ['t', 'r', 'u', 'e'] then some (.boolean true)
  else if word = ['f', 'a', 'l', 's', 'e'] then some (.boolean false)
  else ((integer? word).or (float? word)).or (moment? word)

end Imprint.Toml
