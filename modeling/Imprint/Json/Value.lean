/-!
# JSON values

A value of the JSON data format.  Numbers keep their spelling, and objects keep their members in
order.  A string that escapes half of a surrogate pair has no text.
-/

namespace Imprint.Json

/-- A JSON value. -/
inductive Value where
  | null
  | boolean (truth : Bool)
  | number (spelling : String)
  | string (text : Option String)
  | array (items : List Value)
  | object (members : List (Option String × Value))

/-- The text of a value that is a string. -/
def Value.text? : Value → Option String
  | .string text => text
  | _ => none

end Imprint.Json
