import Imprint.Json.Printer
import Imprint.Text.LetterCase

/-!
# Messages

How a command speaks: in words, with or without colours, or in one JSON document.  Messages can be
turned off; results are always given.
-/

namespace Imprint

/-- The look of messages that a user asks for. -/
inductive OutputFormat where
  | auto
  | human
  | plain
  | json
  deriving DecidableEq

namespace OutputFormat

/-- Every format under its name. -/
def named : List (String × OutputFormat) :=
  [("auto", auto), ("human", human), ("plain", plain), ("json", json)]

/-- The format that is taken: the one that is asked for, else the one of the settings, by its name
in any case, else plain text. -/
def resolve (asked : OutputFormat) (setting : String) : OutputFormat :=
  let wanted :=
    if asked = auto then (named.lookup (Text.asciiLower setting)).getD auto else asked
  if wanted = auto then plain else wanted

end OutputFormat

/-- How a command speaks. -/
structure Console where
  format : OutputFormat
  quiet : Bool
  colored : Bool
  deriving DecidableEq

/-- The marks of messages. -/
inductive Mark where
  | success
  | warning
  | info
  deriving DecidableEq

/-- The sign of a mark. -/
def Mark.sign : Mark → String
  | .success => "✓"
  | .warning => "⚠"
  | .info => "ℹ"

/-- The number of a mark's colour on a terminal: green, yellow or blue. -/
def Mark.color : Mark → Nat
  | .success => 32
  | .warning => 33
  | .info => 34

namespace Console

/-- The number of the colour of headers on a terminal, which is cyan. -/
def headerColor : Nat := 36

/-- A text in bold letters of a colour. -/
def painted (color : Nat) (text : String) : String :=
  s!"\x1b[1m\x1b[{color}m{text}\x1b[39m\x1b[0m"

/-- The console of a command.  Only messages for humans have colours. -/
def ofOptions (asked : OutputFormat) (setting : String) (quiet noColor : Bool) : Console :=
  let format := asked.resolve setting
  { format, quiet, colored := !noColor && format == .human }

/-- Whether results are given as JSON. -/
def isJson (console : Console) : Bool := console.format == .json

/-- A line that can be turned off. -/
def line (console : Console) (text : String) : String :=
  if console.quiet then "" else text ++ "\n"

/-- A message behind a mark. -/
def message (console : Console) (mark : Mark) (text : String) : String :=
  let sign := if console.colored then painted mark.color mark.sign else mark.sign
  console.line (sign ++ " " ++ text)

/-- A header. -/
def header (console : Console) (text : String) : String :=
  console.line (if console.colored then painted headerColor text else text)

/-- A result as text; it ends with a line break in any case. -/
def content (text : String) : String :=
  if text.toList.getLast? == some '\n' then text else text ++ "\n"

/-- A result as a JSON document. -/
def document (value : Json.Value) : String := value.pretty ++ "\n"

end Console

end Imprint
