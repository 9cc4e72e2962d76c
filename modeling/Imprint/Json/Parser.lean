import Imprint.Json.Value
import Imprint.Text.Scan

/-!
# Reading JSON

Readers for JSON texts.  Nothing but white space may stand before or after the document, and
strings hold no control characters.
-/

namespace Imprint.Json

open Text

/-- White space between tokens. -/
def isSpace (c : Char) : Bool := c == ' ' || c == '\t' || c == '\n' || c == '\r'

/-- The text after white space. -/
def skipSpace (text : List Char) : List Char := text.dropWhile isSpace

/-- The code unit of an escape of four hexadecimal digits, after the `u`. -/
def unit? (text : List Char) : Option Nat :=
  let digits := text.take 4
  if digits.length = 4 then hexNumber? digits else none

/-- The second half of a surrogate pair, written as an escape. -/
def lowSurrogate? : List Char → Option Nat
  | '\\' :: 'u' :: text =>
      (unit? text).bind fun low => if 0xdc00 ≤ low ∧ low < 0xe000 then some low else none
  | _ => none

/-- What an escape stands for and how many characters it takes after the backslash.  Half of a
surrogate pair stands for nothing. -/
def escape? : List Char → Option (Option Char × Nat)
  | '"' :: _ => some (some '"', 1)
  | '\\' :: _ => some (some '\\', 1)
  | '/' :: _ => some (some '/', 1)
  | 'b' :: _ => some (some '\x08', 1)
  | 'f' :: _ => some (some '\x0c', 1)
  | 'n' :: _ => some (some '\n', 1)
  | 'r' :: _ => some (some '\r', 1)
  | 't' :: _ => some (some '\t', 1)
  | 'u' :: rest =>
      match unit? rest with
      | none => none
      | some high =>
          if 0xd800 ≤ high ∧ high < 0xdc00 then
            match lowSurrogate? (rest.drop 4) with
            | some low =>
                some (some (Char.ofNat (0x10000 + (high - 0xd800) * 0x400 + (low - 0xdc00))), 11)
            | none => some (none, 5)
          else some (scalar? high, 5)
  | _ => none

/-- What was read of a string: its characters, unless it holds half of a surrogate pair, and the
text after the closing quote. -/
abbrev Read := Option (List Char) × List Char

/-- A character in front of what is read after it. -/
def Read.cons (c : Option Char) (read : Read) : Read :=
  (c.bind fun c => read.1.map (c :: ·), read.2)

/-- The inside of a string after its opening quote and `skip` more characters. -/
def stringFrom : Nat → List Char → Option Read
  | _, [] => none
  | skip + 1, _ :: rest => stringFrom skip rest
  | 0, c :: rest =>
      if c == '"' then some (some [], rest)
      else if c == '\\' then
        match escape? rest with
        | some (char, length) => (stringFrom length rest).map (Read.cons char)
        | none => none
      else if c.toNat < 0x20 then none
      else (stringFrom 0 rest).map (Read.cons (some c))

/-- A string after its opening quote and the rest of the text. -/
def string? (text : List Char) : Option (Option String × List Char) :=
  (stringFrom 0 text).map fun read => (read.1.map String.ofList, read.2)

/-- The digits at the head of a text and the rest; there must be at least one. -/
def digitRun? (text : List Char) : Option (List Char × List Char) :=
  let digits := text.takeWhile Char.isDigit
  if digits.isEmpty then none else some (digits, text.dropWhile Char.isDigit)

/-- The integral part of a number: a zero, or digits that do not begin with one. -/
def integral? : List Char → Option (List Char × List Char)
  | '0' :: rest => some (['0'], rest)
  | text => digitRun? text

/-- The fraction of a number, if there is one. -/
def fraction? : List Char → Option (List Char × List Char)
  | '.' :: text => (digitRun? text).map fun (digits, rest) => ('.' :: digits, rest)
  | text => some ([], text)

/-- The exponent of a number, if there is one. -/
def exponent? : List Char → Option (List Char × List Char)
  | [] => some ([], [])
  | mark :: text =>
      if mark == 'e' || mark == 'E' then
        match text with
        | '+' :: tail => (digitRun? tail).map fun (digits, rest) => (mark :: '+' :: digits, rest)
        | '-' :: tail => (digitRun? tail).map fun (digits, rest) => (mark :: '-' :: digits, rest)
        | tail => (digitRun? tail).map fun (digits, rest) => (mark :: digits, rest)
      else some ([], mark :: text)

/-- A number and the rest of the text. -/
def number? (text : List Char) : Option (List Char × List Char) := do
  let (sign, text) :=
    match text with
    | '-' :: rest => (['-'], rest)
    | text => ([], text)
  let (integral, rest) ← integral? text
  let (fraction, rest) ← fraction? rest
  let (exponent, rest) ← exponent? rest
  some (sign ++ integral ++ fraction ++ exponent, rest)

mutual

/-- A value at the head of a text, with the rest. -/
def value? : Nat → List Char → Option (Value × List Char)
  | 0, _ => none
  | fuel + 1, text =>
      match text with
      | '"' :: rest => (string? rest).map fun (text, rest) => (.string text, rest)
      | '[' :: rest =>
          match skipSpace rest with
          | ']' :: rest => some (.array [], rest)
          | rest => (items? fuel rest).map fun (items, rest) => (.array items, rest)
      | '{' :: rest =>
          match skipSpace rest with
          | '}' :: rest => some (.object [], rest)
          | rest => (members? fuel rest).map fun (members, rest) => (.object members, rest)
      | 'n' :: 'u' :: 'l' :: 'l' :: rest => some (.null, rest)
      | 't' :: 'r' :: 'u' :: 'e' :: rest => some (.boolean true, rest)
      | 'f' :: 'a' :: 'l' :: 's' :: 'e' :: rest => some (.boolean false, rest)
      | _ => (number? text).map fun (spelling, rest) => (.number (String.ofList spelling), rest)

/-- The values of an array from the first one on. -/
def items? : Nat → List Char → Option (List Value × List Char)
  | 0, _ => none
  | fuel + 1, text => do
      let (item, rest) ← value? fuel text
      match skipSpace rest with
      | ']' :: rest => some ([item], rest)
      | ',' :: rest => do
          let (items, rest) ← items? fuel (skipSpace rest)
          some (item :: items, rest)
      | _ => none

/-- The members of an object from the first one on. -/
def members? : Nat → List Char → Option (List (Option String × Value) × List Char)
  | 0, _ => none
  | fuel + 1, text => do
      let rest ← expect? '"' text
      let (key, rest) ← string? rest
      let rest ← expect? ':' (skipSpace rest)
      let (member, rest) ← value? fuel (skipSpace rest)
      match skipSpace rest with
      | '}' :: rest => some ([(key, member)], rest)
      | ',' :: rest => do
          let (members, rest) ← members? fuel (skipSpace rest)
          some ((key, member) :: members, rest)
      | _ => none

end

/-- The value that a document holds. -/
def parse? (text : List Char) : Option Value := do
  let source := skipSpace text
  let (document, rest) ← value? (2 * source.length + 2) source
  if (skipSpace rest).isEmpty then some document else none

end Imprint.Json
