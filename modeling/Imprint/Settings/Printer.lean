import Imprint.Settings
import Imprint.Toml.Printer

/-!
# Written settings

Settings as a document that can be read back: a table for each section, with a line for each
setting that is not missing.
-/

namespace Imprint

/-- The value of a setting as it is written; one that is missing is not. -/
def Setting.toToml? : Setting → Option String
  | .text value => some (Toml.quoted value)
  | .optionalText value => value.map Toml.quoted
  | .texts values => some (Toml.quotedArray values)
  | .truth value => some (if value then "true" else "false")

namespace Settings

/-- A section under its heading. -/
def sectionText (name : String) (entries : List (String × Setting)) : String :=
  let lines := entries.filterMap fun (key, setting) =>
    setting.toToml?.map fun value => key ++ " = " ++ value ++ "\n"
  "[" ++ name ++ "]\n" ++ String.join lines

/-- The document of settings, with empty lines between the sections. -/
def toToml (settings : Settings) : String :=
  "\n".intercalate (settings.sections.map fun (name, entries) => sectionText name entries)

end Settings

end Imprint
