/-!
# Entries in order

Entries with text keys, put into ascending order of their keys.  Texts are compared character by
character, which is the order of their bytes.
-/

namespace Imprint.Text

/-- A sorted list with one more entry, after those with the same key. -/
def insertEntry (entry : String × α) : List (String × α) → List (String × α)
  | [] => [entry]
  | first :: rest =>
      if entry.1 < first.1 then entry :: first :: rest else first :: insertEntry entry rest

/-- The entries in ascending order of their keys. -/
def sortedEntries (entries : List (String × α)) : List (String × α) :=
  entries.foldl (fun sorted entry => insertEntry entry sorted) []

end Imprint.Text
