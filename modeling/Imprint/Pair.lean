import Imprint.Literal.Escape
import Imprint.Template

/-!
# Rendered pairs

Filling the two skeletons of a template with the names and values of a record gives a pair of
texts.  The pair keeps the names it was made with, so that it can be checked later on its own.
-/

namespace Imprint

/-- A declaration and a definition for one language. -/
structure Pair where
  language : String
  convention : Convention
  style : LiteralStyle
  spellings : Spellings
  declaration : String
  definition : String
  files : Halves String
  deriving DecidableEq

/-- The text that fills a slot. -/
def Slot.fill (style : LiteralStyle) (spellings : Spellings) (record : Record) (slot : Slot) :
    String :=
  match slot.kind with
  | .name => spellings.get slot.field
  | .value => style.escape (record.get slot.field)

/-- The text that a segment contributes. -/
def Segment.fill (style : LiteralStyle) (spellings : Spellings) (record : Record) :
    Segment → String
  | .text written => written
  | .slot place => place.fill style spellings record

/-- The text of a skeleton with every slot filled. -/
def Skeleton.fill (skeleton : Skeleton) (style : LiteralStyle) (spellings : Spellings)
    (record : Record) : String :=
  String.join (skeleton.segments.map (·.fill style spellings record))

namespace Pair

/-- Two texts together with the template that they claim to come from. -/
def ofTexts (template : Template) (spellings : Spellings) (declaration definition : String) :
    Pair where
  language := template.language
  convention := spellings.convention
  style := template.style
  spellings := spellings
  declaration := declaration
  definition := definition
  files := template.files

/-- The text of one half. -/
def text (pair : Pair) : Half → String
  | .declaration => pair.declaration
  | .definition => pair.definition

end Pair

namespace Registry

/-- The names that a template renders with. -/
def spellingsFor (registry : Registry) (template : Template) : Except Error Spellings :=
  registry.spellings template.language template.convention template.overrides

end Registry

namespace Template

/-- The two texts of a template for a record. -/
def render (template : Template) (registry : Registry) (record : Record) : Except Error Pair := do
  let spellings ← registry.spellingsFor template
  return Pair.ofTexts template spellings
    (template.declaration.fill template.style spellings record)
    (template.definition.fill template.style spellings record)

end Template

end Imprint
