import Imprint.Catalog.Listing
import Imprint.Command.Context

/-!
# Listing languages

Prints the languages that templates are there for.
-/

namespace Imprint.Command

open CommandLine (ListFormat ListOptions)
open Storage (Disk)

/-- A catalog as it is printed. -/
def listed (console : Console) (format : ListFormat) (catalog : Catalog) : String :=
  match format with
  | .table =>
      console.header "Available languages:" ++
        String.join (catalog.templates.map fun template => console.line template.tableRow)
  | .names => String.join (catalog.languages.map Console.content)
  | .json => Console.document catalog.toListing
  | .csv => String.join (catalog.csvLines.map Console.content)

/-- Carries out `list`. -/
def list (context : Context) (options : ListOptions) (disk : Disk) : Except Failure String := do
  let service ← context.service options.service disk
  let format := if context.console.isJson then .json else options.format
  return listed context.console format service.catalog

end Imprint.Command
