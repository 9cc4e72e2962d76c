import Imprint.Literal.Style
import Imprint.Naming.Registry
import Imprint.Skeleton

/-!
# Templates

A template holds everything that is needed to emit build facts for one language: naming
convention, literal style, file names, pinned names and the two skeletons.  It is built from a
draft, which may lack parts; building checks that nothing is missing and that the parts go
together.
-/

namespace Imprint

open Text

/-- Everything needed to emit build facts for one language. -/
structure Template where
  language : String
  displayName : String
  aliases : List String
  description : String
  convention : Convention
  style : LiteralStyle
  files : Halves String
  overrides : Overrides
  declaration : Skeleton
  definition : Skeleton
  deriving DecidableEq

/-- A template in preparation. -/
structure Draft where
  language : Option String
  displayName : Option String
  aliases : List String
  description : Option String
  convention : Option Convention
  style : Option LiteralStyle
  files : Option (Halves String)
  overrides : Overrides
  declaration : Option String
  definition : Option String

/-- Whether a name is an identifier in some language: a letter or underscore, then letters,
digits, underscores and hyphens. -/
def isIdentifier : List Char → Bool
  | [] => false
  | c :: rest =>
      (isAlphabetic c || c == '_') && rest.all fun c => isAlphanumeric c || c == '_' || c == '-'

/-- Whether two strings differ at most in the case of the first 128 characters. -/
def sameIgnoringCase (first second : String) : Bool := asciiLower first == asciiLower second

namespace Template

/-- The skeleton of one half. -/
def skeleton (template : Template) : Half → Skeleton
  | .declaration => template.declaration
  | .definition => template.definition

/-- Whether a selector names the template, by its language id or by an alias.  Case and
surrounding white space do not matter. -/
def isNamed (template : Template) (selector : String) : Bool :=
  (template.language :: template.aliases).any (sameIgnoringCase · (trimmed selector))

end Template

namespace Draft

/-- The draft without any part. -/
def empty : Draft where
  language := none
  displayName := none
  aliases := []
  description := none
  convention := none
  style := none
  files := none
  overrides := Overrides.none
  declaration := none
  definition := none

/-- The draft with a name pinned for one field. -/
def pin (draft : Draft) (field : Field) (identifier : String) : Draft :=
  { draft with overrides := draft.overrides.set field (some identifier) }

/-- The language id in its stored form: trimmed, in small letters. -/
def languageId (text : String) : String := asciiLower (trimmed text)

/-- A part that must be there. -/
def require (language : String) (part : TemplatePart) : Option α → Except Error α
  | some value => .ok value
  | none => .error (.invalidTemplate (.partMissing language part))

/-- The language id of a draft. -/
def checkLanguage (draft : Draft) : Except Error String :=
  match draft.language.map languageId with
  | none => .error (.invalidTemplate .languageMissing)
  | some language =>
      if language.isEmpty then .error (.invalidTemplate .languageMissing)
      else if language.toList.any isBlank then
        .error (.invalidTemplate (.languageBlank language))
      else .ok language

/-- The file names of a draft, which must be two and not blank. -/
def checkFiles (draft : Draft) (language : String) : Except Error (Halves String) := do
  let files ← require language .files draft.files
  if isBlankText files.declaration || isBlankText files.definition then
    .error (.invalidTemplate (.partMissing language .files))
  else if files.declaration = files.definition then
    .error (.invalidTemplate (.sharedFile language files.declaration))
  else return files

/-- The first pinned name that is no identifier. -/
def invalidOverride? (draft : Draft) : Option (Field × String) :=
  Field.all.findSome? fun field =>
    match draft.overrides.get field with
    | some identifier => if isIdentifier identifier.toList then none else some (field, identifier)
    | none => none

/-- Checks that every pinned name is an identifier and that no two fields share a name, whichever
name the descriptor goes by. -/
def checkOverrides (draft : Draft) (language : String) (convention : Convention) :
    Except Error Unit := do
  match draft.invalidOverride? with
  | some (field, identifier) =>
      .error (.invalidTemplate (.invalidOverride language field identifier))
  | none =>
      let _ ← (Registry.standard .smart).spellings language convention draft.overrides
      let _ ← (Registry.standard .tagOrBranch).spellings language convention draft.overrides

/-- The template that a draft describes.  The first fault is reported, in the order in which the
parts are listed here. -/
def build (draft : Draft) : Except Error Template := do
  let language ← draft.checkLanguage
  let convention ← require language .convention draft.convention
  let style ← require language .escape draft.style
  let files ← draft.checkFiles language
  let declaration ← Skeleton.parse .declaration
    (← require language (.skeleton .declaration) draft.declaration)
  let definition ← Skeleton.parse .definition
    (← require language (.skeleton .definition) draft.definition)
  draft.checkOverrides language convention
  return {
    language, convention, style, files, declaration, definition
    displayName := draft.displayName.getD language
    aliases := (draft.aliases.map languageId).filter fun name => !name.isEmpty
    description := draft.description.getD ""
    overrides := draft.overrides }

end Draft

end Imprint
