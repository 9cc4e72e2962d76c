import Imprint.Template
import Imprint.Text.Sorted
import Imprint.Toml.Document

/-!
# Manifests

A manifest describes the template of one language: its identity, file names, pinned names and the
sources of the two skeletons.  A skeleton is written in the manifest or in a file beside it.
-/

namespace Imprint

open Toml (Value Table)

/-- Where the text of a skeleton comes from; exactly one of the two must be given. -/
structure SkeletonSource where
  skeleton : Option String
  file : Option String
  deriving DecidableEq

/-- The content of a manifest. -/
structure Manifest where
  language : String
  aliases : List String
  name : Option String
  description : Option String
  convention : String
  escape : String
  files : Halves String
  overrides : List (String × String)
  sources : Halves SkeletonSource
  deriving DecidableEq

/-- A part of a document whose members are known by name: a table without other keys, or an array
that gives at least all members in order. -/
def membersOf? (names : List String) : Value → Option Table
  | .table entries => if entries.all (names.contains ·.1) then some entries else none
  | .array items => if names.length ≤ items.length then some (names.zip items) else none
  | _ => none

/-- A member that must be there. -/
def member? (read : Value → Option α) (members : Table) (name : String) : Option α :=
  (members.lookup name).bind read

/-- A member that may be missing. -/
def optional? (read : Value → Option α) (members : Table) (name : String) : Option (Option α) :=
  match members.lookup name with
  | some value => (read value).map some
  | none => some none

/-- The entries of a table of strings. -/
def stringEntries? : Value → Option (List (String × String))
  | .table entries => entries.mapM fun (key, value) => value.string?.map fun text => (key, text)
  | _ => none

/-- The source of a skeleton. -/
def SkeletonSource.read? (value : Value) : Option SkeletonSource := do
  let members ← membersOf? ["skeleton", "file"] value
  let skeleton ← optional? Value.string? members "skeleton"
  let file ← optional? Value.string? members "file"
  some { skeleton, file }

/-- Two file names. -/
def readFiles? (value : Value) : Option (Halves String) := do
  let members ← membersOf? ["declaration", "definition"] value
  let declaration ← member? Value.string? members "declaration"
  let definition ← member? Value.string? members "definition"
  some { declaration, definition }

namespace Manifest

/-- The manifest that a document holds. -/
def ofTable? (document : Table) : Option Manifest := do
  let sections ←
    membersOf? ["template", "files", "overrides", "declaration", "definition"] (.table document)
  let template ← member?
    (membersOf? ["language", "aliases", "name", "description", "convention", "escape"])
    sections "template"
  let language ← member? Value.string? template "language"
  let aliases ← optional? Value.strings? template "aliases"
  let name ← optional? Value.string? template "name"
  let description ← optional? Value.string? template "description"
  let convention ← member? Value.string? template "convention"
  let escape ← member? Value.string? template "escape"
  let files ← member? readFiles? sections "files"
  let overrides ← optional? stringEntries? sections "overrides"
  let declaration ← member? SkeletonSource.read? sections "declaration"
  let definition ← member? SkeletonSource.read? sections "definition"
  some {
    language, name, description, convention, escape, files
    aliases := aliases.getD []
    overrides := Text.sortedEntries (overrides.getD [])
    sources := ⟨declaration, definition⟩ }

/-- Reads a file beside a manifest.  A failure gives the path that was tried and the reason. -/
abbrev FileReader := String → Except (String × Storage.SystemFault) String

/-- The text of a skeleton.  Files can be read only where the manifest has a directory. -/
def resolve (reader : Option FileReader) (half : Half) (source : SkeletonSource) :
    Except Error String :=
  match source.skeleton, source.file, reader with
  | some text, none, _ => .ok text
  | none, some file, some read =>
      match read file with
      | .ok text => .ok text
      | .error (path, cause) =>
          .error (.invalidTemplate (.skeletonFileUnreadable half path cause))
  | none, some file, none =>
      .error (.invalidTemplate (.skeletonFileWithoutDirectory half file))
  | some _, some _, _ => .error (.invalidTemplate (.skeletonTwice half))
  | none, none, _ => .error (.invalidTemplate (.skeletonAbsent half))

/-- The template that a manifest describes.  Names are read before files, and pins take effect in
order, the last one for a field counting. -/
def toTemplate (reader : Option FileReader) (manifest : Manifest) : Except Error Template := do
  let convention ← Convention.parse manifest.convention
  let style ← LiteralStyle.parse manifest.escape
  let pins ← manifest.overrides.mapM fun (key, identifier) => do
    return (← Field.parse key, identifier)
  let declaration ← resolve reader .declaration manifest.sources.declaration
  let definition ← resolve reader .definition manifest.sources.definition
  let draft : Draft := {
    language := some manifest.language
    displayName := manifest.name
    aliases := manifest.aliases
    description := manifest.description
    convention := some convention
    style := some style
    files := some manifest.files
    overrides := Overrides.none
    declaration := some declaration
    definition := some definition }
  (pins.foldl (fun draft (field, identifier) => draft.pin field identifier) draft).build

/-- The template that the text of a manifest describes. -/
def parse (reader : Option FileReader) (text : String) : Except Error Template :=
  match (Toml.parse? text).bind ofTable? with
  | some manifest => manifest.toTemplate reader
  | none => .error (.invalidTemplate .invalidManifest)

end Manifest

end Imprint
