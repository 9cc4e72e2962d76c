import Imprint.Number.Binary64

/-!
# Values of the configuration language

Manifests and settings are written in a language of tables.  A value is a string, a number, a
Boolean, a date or time, an array or a table; the keys of a table are distinct.
-/

namespace Imprint.Toml

/-- A value of the configuration language. -/
inductive Value where
  | string (text : String)
  | integer (number : Int)
  | float (number : Binary64)
  | boolean (truth : Bool)
  | moment (text : String)
  | array (items : List Value)
  | table (entries : List (String × Value))

/-- The entries of a table. -/
abbrev Table := List (String × Value)

/-- A value that is a string. -/
def Value.string? : Value → Option String
  | .string text => some text
  | _ => none

/-- A value that is an array of strings. -/
def Value.strings? : Value → Option (List String)
  | .array items => items.mapM Value.string?
  | _ => none

end Imprint.Toml
