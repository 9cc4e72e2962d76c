import Imprint.Toml.Statement

/-!
# Documents

Statements are carried out one after the other on a table in the making.  A heading opens a table
that no heading has opened before, and assignments go to the table opened last.
-/

namespace Imprint.Toml

namespace Entries

/-- Changes the table that a path of headings leads to; of an array of tables the last element is
meant. -/
def modify (change : Entries → Option Entries) : KeyPath → Entries → Option Entries
  | [], entries => change entries
  | key :: path, entries =>
      match entries.lookup key with
      | none => none
      | some (.leaf _) => none
      | some (.table origin inner) =>
          (modify change path inner).map fun inner => replace entries key (.table origin inner)
      | some (.tables elements) =>
          match elements.getLast? with
          | none => none
          | some last =>
              (modify change path last).map fun last =>
                replace entries key (.tables (elements.dropLast ++ [last]))

/-- Carries out a change at the last key of a heading, in the table before it.  Tables on the way
are created where they are missing. -/
def atHeading (change : String → Entries → Option Entries) : KeyPath → Entries → Option Entries
  | [], _ => none
  | [key], entries => change key entries
  | key :: next :: path, entries =>
      match entries.lookup key with
      | none =>
          (atHeading change (next :: path) []).map fun inner =>
            entries ++ [(key, .table .passage inner)]
      | some (.leaf _) => none
      | some (.table origin inner) =>
          (atHeading change (next :: path) inner).map fun inner =>
            replace entries key (.table origin inner)
      | some (.tables elements) =>
          match elements.getLast? with
          | none => none
          | some last =>
              (atHeading change (next :: path) last).map fun last =>
                replace entries key (.tables (elements.dropLast ++ [last]))

/-- Opens a table that is new or was only passed through. -/
def openTable (key : String) (entries : Entries) : Option Entries :=
  match entries.lookup key with
  | none => some (entries ++ [(key, .table .heading [])])
  | some (.table .passage inner) => some (replace entries key (.table .heading inner))
  | some _ => none

/-- Opens a further element of an array of tables. -/
def openElement (key : String) (entries : Entries) : Option Entries :=
  match entries.lookup key with
  | none => some (entries ++ [(key, .tables [[]])])
  | some (.tables elements) => some (replace entries key (.tables (elements ++ [[]])))
  | some _ => none

end Entries

/-- A table in the making and the heading of the table that assignments go to. -/
structure Draft where
  entries : Entries
  current : KeyPath

/-- Carries out one statement. -/
def Draft.apply (draft : Draft) : Statement → Option Draft
  | .assign path content =>
      (Entries.modify (Entries.assign content true path) draft.current draft.entries).map
        fun entries => { draft with entries }
  | .heading path =>
      (Entries.atHeading Entries.openTable path draft.entries).map fun entries => ⟨entries, path⟩
  | .element path =>
      (Entries.atHeading Entries.openElement path draft.entries).map fun entries => ⟨entries, path⟩

/-- The text without the mark that may stand at the very beginning of a file. -/
def dropByteOrderMark : List Char → List Char
  | '\ufeff' :: rest => rest
  | text => text

/-- The table that a document describes. -/
def parse? (text : String) : Option Table := do
  let source := dropByteOrderMark text.toList
  let statements ← statements? (source.length + 1) source
  let draft ← statements.foldlM Draft.apply ⟨[], []⟩
  some (Entries.toTable draft.entries)

end Imprint.Toml
