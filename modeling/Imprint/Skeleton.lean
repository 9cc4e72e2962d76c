import Imprint.Error
import Imprint.Text.Blank

/-!
# Skeletons

A skeleton is text with slots for fields.  A slot is written as a placeholder between double
braces: the name of a field, with `.name` or `.value` behind it or with neither.  Without one a
declaration means the name and a definition the value.

A skeleton is sound if its fields appear in canonical order, all five of them, and if values stand
in definitions only, one for each field.
-/

namespace Imprint

open Text

/-- What a slot is filled with: the name of its field or the escaped value. -/
inductive SlotKind where
  | name
  | value
  deriving DecidableEq

/-- The kind of a slot that names none. -/
def Half.defaultSlot : Half → SlotKind
  | .declaration => .name
  | .definition => .value

/-- A place in a skeleton that a field fills. -/
structure Slot where
  field : Field
  kind : SlotKind
  deriving DecidableEq

/-- A piece of a skeleton. -/
inductive Segment where
  | text (text : String)
  | slot (slot : Slot)
  deriving DecidableEq

/-- The slot of a segment, if it is one. -/
def Segment.slot? : Segment → Option Slot
  | .text _ => none
  | .slot found => some found

/-- Text interleaved with slots, for one half of a pair. -/
structure Skeleton where
  half : Half
  segments : List Segment
  deriving DecidableEq

/-- A list up to the first occurrence of an element, and what follows that occurrence. -/
def splitFirst (mark : Char) : List Char → List Char × Option (List Char)
  | [] => ([], none)
  | c :: rest =>
      if c == mark then ([], some rest)
      else ((c :: (splitFirst mark rest).1), (splitFirst mark rest).2)

/-- The slot that the inside of a placeholder describes.  White space does not count. -/
def Slot.parse (half : Half) (inside : List Char) : Except TemplateFault Slot :=
  let compact := inside.filter fun c => !isBlank c
  let (name, accessor) := splitFirst '.' compact
  match Field.ofPlaceholder? (String.ofList name) with
  | none => .error (.unknownPlaceholder (String.ofList compact))
  | some field =>
      match accessor.map String.ofList with
      | none => .ok ⟨field, half.defaultSlot⟩
      | some "name" => .ok ⟨field, .name⟩
      | some "value" => .ok ⟨field, .value⟩
      | some other => .error (.unknownAccessor other field)

/-- The segment of a stretch of text, unless it is empty. -/
def textSegment (text : List Char) : List Segment :=
  if text.isEmpty then [] else [.text (String.ofList text)]

/-- The segments of a source.  `inside` tells whether a placeholder is open, and `current` is what
has been read since the last pair of braces. -/
def segmentsFrom (half : Half) (inside : Bool) (current : List Char) :
    List Char → Except TemplateFault (List Segment)
  | [] => if inside then .error (.unterminatedPlaceholder half) else .ok (textSegment current)
  | [c] =>
      if inside then .error (.unterminatedPlaceholder half)
      else .ok (textSegment (current ++ [c]))
  | c :: next :: rest =>
      if inside then
        if c == '}' && next == '}' then do
          let slot ← Slot.parse half current
          let segments ← segmentsFrom half false [] rest
          return .slot slot :: segments
        else segmentsFrom half true (current ++ [c]) (next :: rest)
      else
        if c == '{' && next == '{' then do
          let segments ← segmentsFrom half true [] rest
          return textSegment current ++ segments
        else segmentsFrom half false (current ++ [c]) (next :: rest)

namespace Skeleton

/-- The slots of a skeleton. -/
def slots (skeleton : Skeleton) : List Slot := skeleton.segments.filterMap Segment.slot?

/-- The fields of some slots in order of first appearance, after those already seen. -/
def firstFields (seen : List Field) : List Slot → List Field
  | [] => seen
  | slot :: rest =>
      firstFields (if seen.contains slot.field then seen else seen ++ [slot.field]) rest

/-- The fields of a skeleton in order of first appearance. -/
def fieldOrder (skeleton : Skeleton) : List Field := firstFields [] skeleton.slots

/-- How many value slots a field has. -/
def valueCount (skeleton : Skeleton) (field : Field) : Nat :=
  (skeleton.slots.filter fun slot => slot == ⟨field, .value⟩).length

/-- The first field of a declaration that stands in a value slot. -/
def declaredValue? (skeleton : Skeleton) : Option Field :=
  if skeleton.half = .declaration then
    (skeleton.slots.find? fun slot => slot.kind == .value).map Slot.field
  else none

/-- The first field that does not have exactly one value slot in a definition. -/
def miscounted? (skeleton : Skeleton) : Option Field :=
  if skeleton.half = .definition then
    Field.all.find? fun field => skeleton.valueCount field != 1
  else none

/-- What is wrong with a skeleton, if anything. -/
def fault? (skeleton : Skeleton) : Option TemplateFault :=
  match skeleton.declaredValue? with
  | some field => some (.declaredValue field)
  | none =>
      if skeleton.fieldOrder ≠ Field.all then
        some (.fieldOrder skeleton.half skeleton.fieldOrder)
      else skeleton.miscounted?.map fun field => .valueCount field (skeleton.valueCount field)

/-- The skeleton that a source describes. -/
def parse (half : Half) (source : String) : Except Error Skeleton :=
  match segmentsFrom half false [] source.toList with
  | .error fault => .error (.invalidTemplate fault)
  | .ok segments =>
      let skeleton : Skeleton := ⟨half, segments⟩
      match skeleton.fault? with
      | some fault => .error (.invalidTemplate fault)
      | none => .ok skeleton

end Skeleton

end Imprint
