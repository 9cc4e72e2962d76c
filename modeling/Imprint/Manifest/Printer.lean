import Imprint.Builtin

/-!
# Written manifests

A template written as a manifest, which can serve as the starting point of another one.  Skeletons
are written with placeholders between triple quotes, so they must not hold such quotes.
-/

namespace Imprint

/-- The placeholder of a slot.  A kind that goes without saying is left out. -/
def Slot.placeholder (half : Half) (slot : Slot) : String :=
  let accessor :=
    if slot.kind = half.defaultSlot then ""
    else match slot.kind with
      | .name => ".name"
      | .value => ".value"
  "\x7b\x7b" ++ slot.field.name ++ accessor ++ "\x7d\x7d"

/-- The source of a segment. -/
def Segment.source (half : Half) : Segment → String
  | .text written => written
  | .slot place => place.placeholder half

/-- The source of a skeleton. -/
def Skeleton.source (skeleton : Skeleton) : String :=
  String.join (skeleton.segments.map (Segment.source skeleton.half))

namespace Template

/-- A string between double quotes. -/
def quoted (text : String) : String := "\"" ++ text ++ "\""

/-- A setting on a line of its own. -/
def setting (key text : String) : String := key ++ " = " ++ text ++ "\n"

/-- The lines of a manifest that pin names, if any are pinned. -/
def overrideLines (overrides : Overrides) : String :=
  let lines := overrides.entries.filterMap fun (field, pinned) =>
    pinned.map fun name => setting field.name (quoted name)
  if lines.isEmpty then "" else "[overrides]\n" ++ String.join lines ++ "\n"

/-- The lines of a manifest that list aliases, if there are any. -/
def aliasLines (aliases : List String) : String :=
  if aliases.isEmpty then ""
  else setting "aliases" ("[" ++ ", ".intercalate (aliases.map quoted) ++ "]")

/-- The part of a manifest that holds a skeleton. -/
def skeletonLines (skeleton : Skeleton) : String :=
  "[" ++ skeleton.half.name ++ "]\nskeleton = '''\n" ++ skeleton.source ++ "'''\n"

/-- The manifest of a template. -/
def toManifest (template : Template) : String :=
  "[template]\n" ++ setting "language" (quoted template.language) ++
    aliasLines template.aliases ++
    setting "name" (quoted template.displayName) ++
    setting "description" (quoted template.description) ++
    setting "convention" (quoted template.convention.name) ++
    setting "escape" (quoted template.style.name) ++
    "\n[files]\n" ++
    setting "declaration" (quoted template.files.declaration) ++
    setting "definition" (quoted template.files.definition) ++
    "\n" ++ overrideLines template.overrides ++
    skeletonLines template.declaration ++ "\n" ++ skeletonLines template.definition

end Template

namespace Builtin

/-- The manifest of a built-in template, by its language id in any case. -/
def manifest? (language : String) : Option String :=
  (all.find? fun template => sameIgnoringCase template.language language).map Template.toManifest

end Builtin

end Imprint
