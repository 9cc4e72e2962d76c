import Imprint.Json.Printer
import Imprint.Pair

/-!
# Pairs as documents

A pair as a JSON object, with the names that it was made with.
-/

namespace Imprint

open Json (Value)

/-- Two texts as a JSON object. -/
def Halves.toJson (texts : Halves String) : Value :=
  .ofEntries
    [("declaration", .ofString texts.declaration), ("definition", .ofString texts.definition)]

/-- The names of the fields as a JSON object. -/
def Spellings.toJson (spellings : Spellings) : Value :=
  .ofEntries (spellings.names.entries.map fun (field, name) => (field.name, .ofString name))

/-- A pair as a JSON object. -/
def Pair.toJson (pair : Pair) : Value :=
  .ofEntries
    [("language", .ofString pair.language),
     ("convention", .ofString pair.convention.name),
     ("spellings", pair.spellings.toJson),
     ("declaration", .ofString pair.declaration),
     ("definition", .ofString pair.definition),
     ("files", pair.files.toJson)]

end Imprint
