import Imprint.Catalog
import Imprint.Json.Printer

/-!
# Lists of languages

The languages of a catalog, listed with their aliases, conventions and files: as the rows of a
table, as rows of values with commas between them, or as JSON.
-/

namespace Imprint

open Json (Value)

/-- A text that is filled up with spaces to a least width. -/
def padRight (width : Nat) (text : String) : String :=
  text ++ String.ofList (List.replicate (width - text.length) ' ')

namespace Template

/-- The row of a template in a table. -/
def tableRow (template : Template) : String :=
  let aliases := ", ".intercalate template.aliases
  let others := if template.aliases.isEmpty then "" else s!" ({aliases})"
  "  " ++ padRight 12 template.language ++ " " ++ padRight 16 template.convention.name ++ " " ++
    template.files.declaration ++ " + " ++ template.files.definition ++ others

/-- The columns of a template in a list with commas. -/
def columns (template : Template) : List String :=
  [template.language, ";".intercalate template.aliases, template.convention.name,
   template.files.declaration, template.files.definition]

/-- The row of a template in a list with commas. -/
def csvRow (template : Template) : String := ",".intercalate template.columns

/-- A template's entry in a JSON list. -/
def toListing (template : Template) : Value :=
  .ofEntries
    [("language", .ofString template.language),
     ("name", .ofString template.displayName),
     ("aliases", .array (template.aliases.map .ofString)),
     ("convention", .ofString template.convention.name),
     ("declaration_file", .ofString template.files.declaration),
     ("definition_file", .ofString template.files.definition),
     ("description", .ofString template.description)]

end Template

namespace Catalog

/-- The header of a list with commas. -/
def csvHeader : String := "language,aliases,convention,declaration,definition"

/-- The lines of a list with commas. -/
def csvLines (catalog : Catalog) : List String :=
  csvHeader :: catalog.templates.map Template.csvRow

/-- The languages of a catalog as a JSON array. -/
def toListing (catalog : Catalog) : Value := .array (catalog.templates.map Template.toListing)

end Catalog

end Imprint
