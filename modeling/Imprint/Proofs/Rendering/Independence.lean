import Imprint.Proofs.Rendering.Consistency
import Imprint.Proofs.Template.Built
import Imprint.Proofs.Template.Skeleton

/-!
# Values stay in their places

A built template puts the value of a field in one place of the definition and in no place of the
declaration.  So all records share one declaration, and another value of a field changes the
definition in that place only.  What stands around the place does not depend on the value, which
is not searched for placeholders again.
-/

namespace Imprint

variable {style : LiteralStyle} {spellings : Spellings} {field : Field}

/-! ## Segments -/

/-- A segment that is no value slot of a field is filled without its value. -/
theorem Segment.fill_set {segment : Segment} (other : segment ≠ .slot ⟨field, .value⟩)
    (record : Record) (value : String) :
    segment.fill style spellings (record.set field value) =
      segment.fill style spellings record := by
  cases segment with
  | text written => rfl
  | slot place =>
      obtain ⟨filled, kind⟩ := place
      cases kind with
      | name => rfl
      | value =>
          have apart : filled ≠ field := by
            rintro rfl
            exact other rfl
          rw [Segment.fill, Segment.fill, Slot.fill, Slot.fill, PerField.get_set, if_neg apart]

theorem Segment.fill_eq_of_name {segment : Segment}
    (named : ∀ slot, segment.slot? = some slot → slot.kind = .name) (first second : Record) :
    segment.fill style spellings first = segment.fill style spellings second := by
  cases segment with
  | text written => rfl
  | slot place => rw [Segment.fill, Segment.fill, Slot.fill, Slot.fill, named place rfl]

/-! ## Skeletons -/

namespace Skeleton

variable {skeleton : Skeleton}

/-- A skeleton that holds names only has one text for all records. -/
theorem fill_eq_of_names (named : ∀ slot ∈ skeleton.slots, slot.kind = .name)
    (first second : Record) :
    skeleton.fill style spellings first = skeleton.fill style spellings second := by
  have same : skeleton.segments.map (·.fill style spellings first) =
      skeleton.segments.map (·.fill style spellings second) := by
    refine List.map_congr_left fun segment member => Segment.fill_eq_of_name ?_ first second
    intro slot found
    exact named slot (List.mem_filterMap.mpr ⟨segment, member, found⟩)
  rw [fill, fill, same]

/-- Where a field has one value slot, its value stands between two texts that do not depend on
it. -/
theorem exists_fill_set (once : skeleton.valueCount field = 1) (style : LiteralStyle)
    (spellings : Spellings) (record : Record) :
    ∃ before after, ∀ value, skeleton.fill style spellings (record.set field value) =
      before ++ style.escape value ++ after := by
  obtain ⟨before, after, split, earlier, later⟩ := exists_place_of_valueCount once
  have unchanged {segments : List Segment}
      (others : ∀ segment ∈ segments, segment ≠ .slot ⟨field, .value⟩) (value : String) :
      segments.map (·.fill style spellings (record.set field value)) =
        segments.map (·.fill style spellings record) :=
    List.map_congr_left fun segment member => Segment.fill_set (others segment member) record value
  refine ⟨String.join (before.map (·.fill style spellings record)),
    String.join (after.map (·.fill style spellings record)), fun value => ?_⟩
  have here : (Segment.slot ⟨field, .value⟩).fill style spellings (record.set field value) =
      style.escape value := by
    rw [Segment.fill, Slot.fill, PerField.get_set, if_pos rfl]
  rw [fill, split, List.map_append, List.map_cons, unchanged earlier, unchanged later, here,
    String.join_append, String.join_cons, String.append_assoc]

end Skeleton

/-! ## Templates -/

/-- The skeletons of a built template are sound. -/
theorem Draft.Builds.sound {draft : Draft} {template : Template}
    (builds : draft.Builds template) (half : Half) :
    (template.skeleton half).half = half ∧ (template.skeleton half).Sound := by
  obtain ⟨declaration, definition, -, -, declared, defined⟩ := builds.skeletons
  cases half with
  | declaration => exact Skeleton.sound_of_parse_eq_ok declared
  | definition => exact Skeleton.sound_of_parse_eq_ok defined

/-- A built template that renders at all renders every record.  All records have one declaration,
and in the definition every value stands escaped between two texts that do not depend on it. -/
theorem definition_eq_append_escape {draft : Draft} {template : Template} {registry : Registry}
    {record : Record} {pair : Pair} (built : draft.build = .ok template)
    (rendered : template.render registry record = .ok pair) :
    (∀ other, ∃ otherPair, template.render registry other = .ok otherPair ∧
        otherPair.declaration = pair.declaration) ∧
      ∀ other field, ∃ before after, ∀ value, ∃ valuePair,
        template.render registry (PerField.set other field value) = .ok valuePair ∧
        valuePair.definition = before ++ template.style.escape value ++ after := by
  have builds := Draft.builds_of_build_eq_ok built
  have declaration := builds.sound .declaration
  have definition := builds.sound .definition
  rw [Template.render, bind_eq_ok_iff] at rendered
  obtain ⟨spellings, spelled, same⟩ := rendered
  cases same
  constructor
  · intro other
    refine ⟨_, Template.render_eq_ok spelled other, ?_⟩
    exact Skeleton.fill_eq_of_names (declaration.2.declared declaration.1) other record
  · intro other field
    have once := definition.2.defined definition.1 field
    obtain ⟨before, after, filled⟩ :=
      Skeleton.exists_fill_set once template.style spellings other
    exact ⟨before, after, fun value => ⟨_, Template.render_eq_ok spelled _, filled value⟩⟩

/-- A registry whose only rule joins lowercase words by dots. -/
def dottedRegistry : Registry := Registry.empty.withRule .snake ⟨some '.', .lower, .lower⟩

/-- A plain template of the convention that the registry has a rule for. -/
def dottedTemplate : Template := plainTemplate .snake ⟨"plain.h", "plain.c"⟩ Overrides.none

/-- A record with a value that looks like a placeholder. -/
def bracedRecord : Record := Record.empty.set .version "\x7b\x7bBuildDate\x7d\x7d"

/-- A value that looks like a placeholder, among names of no standard convention. -/
theorem definition_eq_append_escape_dottedTemplate :
    (plainDraft .snake dottedTemplate.files Overrides.none).build = .ok dottedTemplate ∧
      ∃ pair, dottedTemplate.render dottedRegistry bracedRecord = .ok pair ∧
        (∀ other, ∃ otherPair, dottedTemplate.render dottedRegistry other = .ok otherPair ∧
          otherPair.declaration = pair.declaration) ∧
        ∀ other field, ∃ before after, ∀ value, ∃ valuePair,
          dottedTemplate.render dottedRegistry (PerField.set other field value) =
            .ok valuePair ∧
          valuePair.definition = before ++ dottedTemplate.style.escape value ++ after := by
  have built : (plainDraft .snake dottedTemplate.files Overrides.none).build =
      .ok dottedTemplate :=
    build_plainDraft (by decide +kernel) (by decide +kernel)
  have spelled : dottedRegistry.spellingsFor dottedTemplate =
      .ok ⟨.snake, ⟨"version", "commit.hash", "commit.date", "commit.smart", "build.date"⟩⟩ := by
    decide +kernel
  have rendered := Template.render_eq_ok spelled bracedRecord
  exact ⟨built, _, rendered, definition_eq_append_escape built rendered⟩

end Imprint
