import Imprint.Consistency
import Imprint.Proofs.Except
import Imprint.Proofs.Rendering.Frame

/-!
# Pairs that pass their check

A pair is consistent if each of its texts names the five fields once and by their spellings.  For
a rendered pair this is a matter of its two frames, since no value adds an identifier.
-/

namespace Imprint

/-- The field that an identifier names next to some spellings, together with the identifier. -/
def Spellings.fieldToken? (spellings : Spellings) (token : List Char) : Option FieldToken :=
  ((spellings.fieldOf? (String.ofList token)).or (Field.resolve? (String.ofList token))).map
    fun field => (field, String.ofList token)

/-- The field of an identifier by its characters. -/
theorem Spellings.fieldToken?_eq (spellings : Spellings) :
    spellings.fieldToken? = fun token =>
      ((Field.all.find? fun field => (spellings.get field).toList == token).or
        (Field.ofWords? ((splitWords token).map String.ofList))).map
          fun field => (field, String.ofList token) := by
  funext token
  have same (field : Field) :
      (spellings.names.get field == String.ofList token) =
        ((spellings.get field).toList == token) := by
    rw [Bool.eq_iff_iff, beq_iff_eq, beq_iff_eq, ← String.toList_inj, String.toList_ofList,
      Spellings.get]
  simp only [fieldToken?, fieldOf?, Field.resolve?, String.toList_ofList, same]

/-- The identifiers of a frame that name a field, in order. -/
def Frame.fieldTokens (frame : Frame) (style : LiteralStyle) (hyphenated : Bool)
    (spellings : Spellings) : List FieldToken :=
  (frame.tokens style hyphenated).filterMap spellings.fieldToken?

/-- Whether a frame is sealed and names every field once, in canonical order and by its
spelling. -/
def Frame.NamesOnce (frame : Frame) (style : LiteralStyle) (hyphenated : Bool)
    (spellings : Spellings) : Prop :=
  frame.Sealed style hyphenated ∧
    frame.fieldTokens style hyphenated spellings = spellings.names.entries

namespace Pair

variable {pair : Pair}

theorem fieldTokens_eq (pair : Pair) (half : Half) :
    pair.fieldTokens half =
      (Imprint.tokens pair.style.lexicon pair.convention.isHyphenated
        (pair.text half).toList).filterMap pair.spellings.fieldToken? := by
  rw [fieldTokens, Pair.tokens, List.filterMap_map]
  rfl

/-- A text that is a sealed frame names the fields that the frame names. -/
theorem fieldTokens_eq_of_frame {half : Half} {frame : Frame}
    (sealed : frame.Sealed pair.style pair.convention.isHyphenated) (value : Field → List Char)
    (filled : (pair.text half).toList =
      frame.fill fun field => pair.style.escapeChars (value field)) :
    pair.fieldTokens half =
      frame.fieldTokens pair.style pair.convention.isHyphenated pair.spellings := by
  rw [fieldTokens_eq, filled, Frame.tokens_fill sealed, Frame.fieldTokens]

/-! ## Texts that show each field at most once -/

variable {shown : Field → Option String} {field : Field}

/-- Each of the two texts names the fields in canonical order, each of them as `shown` or not at
all. -/
def Shows (pair : Pair) (shown : Field → Option String) : Prop :=
  ∀ half, pair.fieldTokens half =
    Field.all.filterMap fun field => (shown field).map fun name => (field, name)

theorem tokensOf_of_shows (shows : pair.Shows shown) (half : Half) (field : Field) :
    pair.tokensOf half field = (shown field).toList := by
  have single (other : Field) :
      Option.map Prod.snd (((shown other).map fun name => (other, name)).filter
        (·.1 == field)) = if other = field then shown other else none := by
    cases shown other with
    | none => simp
    | some name => by_cases same : other = field <;> simp [same]
  rw [tokensOf, shows half, List.filter_filterMap, List.map_filterMap]
  simp only [single]
  cases field <;> cases named : shown _ <;> simp [Field.all, named]

/-- Both sides report a field as it is shown. -/
theorem validateField_of_shows (shows : pair.Shows shown) (field : Field) :
    pair.validateField field =
      if shown field = some (pair.spellings.get field) then .ok ()
      else
        .error (.inconsistent field ((shown field).getD missingMark)
          ((shown field).getD missingMark) (pair.spellings.get field)) := by
  simp only [validateField, tokensOf_of_shows shows]
  cases shown field with
  | none => rfl
  | some name =>
      by_cases same : name = pair.spellings.get field
      · simp [agrees, offending?, same]
      · simp [agrees, offending?, reported, same]

/-- The first field that is not shown as expected is reported. -/
theorem validate_of_shows (shows : pair.Shows shown)
    (first : Field.all.find? (fun field => shown field != some (pair.spellings.get field)) =
      some field) :
    pair.validate =
      .error (.inconsistent field ((shown field).getD missingMark)
        ((shown field).getD missingMark) (pair.spellings.get field)) := by
  obtain ⟨differs, before, after, split, agree⟩ := List.find?_eq_some_iff_append.mp first
  rw [validate, split]
  refine forM_eq_error (fun other member => ?_) ?_
  · have same : shown other = some (pair.spellings.get other) := by simpa using agree other member
    rw [validateField_of_shows shows, if_pos same]
  · rw [validateField_of_shows shows, if_neg (bne_iff_ne.mp differs)]

/-- A pair is consistent if both texts name every field once, by its spelling. -/
theorem validate_eq_ok
    (found : ∀ half, pair.fieldTokens half = pair.spellings.names.entries) :
    pair.validate = .ok () := by
  have shows : pair.Shows fun field => some (pair.spellings.get field) := found
  refine forM_eq_ok_iff.mpr fun field _ => ?_
  rw [validateField_of_shows shows, if_pos rfl]

end Pair

/-! ## Rendered pairs -/

namespace Template

variable {template : Template} {registry : Registry} {record : Record} {spellings : Spellings}

/-- The pair that a template renders with some names. -/
def pairOf (template : Template) (spellings : Spellings) (record : Record) : Pair :=
  .ofTexts template spellings (template.declaration.fill template.style spellings record)
    (template.definition.fill template.style spellings record)

theorem render_eq_ok (spelled : registry.spellingsFor template = .ok spellings)
    (record : Record) :
    template.render registry record = .ok (template.pairOf spellings record) := by
  rw [render, spelled]
  rfl

theorem text_pairOf (template : Template) (spellings : Spellings) (record : Record)
    (half : Half) :
    (template.pairOf spellings record).text half =
      (template.skeleton half).fill template.style spellings record := by
  cases half <;> rfl

/-- Whether the texts of a template, apart from its values, name every field once and by its
spelling. -/
def NamesOnce (template : Template) (spellings : Spellings) (half : Half) : Prop :=
  ((template.skeleton half).frame spellings).Sealed template.style
      spellings.convention.isHyphenated ∧
    ((template.skeleton half).frame spellings).fieldTokens template.style
      spellings.convention.isHyphenated spellings = spellings.names.entries
deriving Decidable

/-- What a rendered pair names does not depend on the record. -/
theorem fieldTokens_pairOf {half : Half} (named : template.NamesOnce spellings half)
    (record : Record) :
    (template.pairOf spellings record).fieldTokens half = spellings.names.entries := by
  have filled := text_pairOf template spellings record half
  refine (Pair.fieldTokens_eq_of_frame named.1 (fun field => (record.get field).toList) ?_).trans
    named.2
  rw [filled, Skeleton.toList_fill]
  rfl

end Template

end Imprint
