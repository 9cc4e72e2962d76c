import Imprint.Builtin
import Imprint.Consistency

/-!
# Catalogs

A catalog holds templates in ascending order of their language ids, one for each id.  Selectors
find a template by its id or, failing that, by an alias.
-/

namespace Imprint

/-- Templates in ascending order of their language ids. -/
structure Catalog where
  templates : List Template
  deriving DecidableEq

namespace Catalog

/-- The catalog without templates. -/
def empty : Catalog := ⟨[]⟩

/-- The catalog of built-in templates. -/
def builtin : Catalog := ⟨Builtin.all⟩

/-- The language ids of a catalog. -/
def languages (catalog : Catalog) : List String := catalog.templates.map Template.language

/-- The number of templates. -/
def size (catalog : Catalog) : Nat := catalog.templates.length

/-- The template with exactly the given language id. -/
def lookup? (catalog : Catalog) (language : String) : Option Template :=
  catalog.templates.find? (·.language == language)

/-- A sorted list of templates with one more, and the one with the same id that it replaces. -/
def insertSorted (template : Template) : List Template → Option Template × List Template
  | [] => (none, [template])
  | first :: rest =>
      if template.language = first.language then (some first, template :: rest)
      else if template.language < first.language then (none, template :: first :: rest)
      else
        let (replaced, inserted) := insertSorted template rest
        (replaced, first :: inserted)

/-- The catalog with one more template, and the one with the same id that it replaces. -/
def exchange (catalog : Catalog) (template : Template) : Option Template × Catalog :=
  let (replaced, templates) := insertSorted template catalog.templates
  (replaced, ⟨templates⟩)

/-- The catalog with one more template, which replaces the one with the same id. -/
def insert (catalog : Catalog) (template : Template) : Catalog :=
  (catalog.exchange template).2

/-- The catalog with more templates, the later ones replacing the earlier. -/
def insertAll (catalog : Catalog) (templates : List Template) : Catalog :=
  templates.foldl insert catalog

/-- The template that a selector names.  An id takes precedence over aliases, and of several
templates with one alias the first in order is meant. -/
def find (catalog : Catalog) (selector : String) : Except Error Template :=
  let wanted := Draft.languageId selector
  match (catalog.lookup? wanted).or (catalog.templates.find? (·.isNamed wanted)) with
  | some template => .ok template
  | none => .error (.unsupportedLanguage selector catalog.languages)

/-- The pair for a record in the selected language. -/
def render (catalog : Catalog) (registry : Registry) (record : Record) (selector : String) :
    Except Error Pair := do
  let template ← catalog.find selector
  template.render registry record

/-- The pair for a record in the selected language, once it has passed its own check. -/
def renderChecked (catalog : Catalog) (registry : Registry) (record : Record)
    (selector : String) : Except Error Pair := do
  let pair ← catalog.render registry record selector
  pair.validate
  return pair

/-- The names that two texts of a template must use: the template's own, unless another
convention is asked for, under which pinned names do not count. -/
def expectedSpellings (registry : Registry) (template : Template)
    (convention : Option Convention) : Except Error Spellings :=
  match convention with
  | some other =>
      if other = template.convention then registry.spellingsFor template
      else registry.spellings template.language other Overrides.none
  | none => registry.spellingsFor template

/-- Checks two texts that claim to be the pair of the selected language. -/
def check (catalog : Catalog) (registry : Registry) (selector : String)
    (convention : Option Convention) (declaration definition : String) : Except Error Unit := do
  let template ← catalog.find selector
  let spellings ← expectedSpellings registry template convention
  (Pair.ofTexts template spellings declaration definition).validate

end Catalog

end Imprint
