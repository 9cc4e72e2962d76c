import Imprint.Skeleton
import Mathlib.Data.List.Induction
import Mathlib.Data.List.Nodup

/-!
# Sound skeletons

A source is parsed only if no fault is found in its skeleton.  Here the search for faults is turned
into the properties that it decides, the order of the fields into the places where they first
appear, and the count of values into the place of a field's value: the one segment of a definition
that is filled with it.
-/

namespace Imprint.Skeleton

variable {skeleton : Skeleton} {field : Field}

/-! ## Faults -/

/-- The fields come in canonical order, and values stand in definitions only, one for each
field. -/
structure Sound (skeleton : Skeleton) : Prop where
  ordered : skeleton.fieldOrder = Field.all
  declared : skeleton.half = .declaration → ∀ slot ∈ skeleton.slots, slot.kind = .name
  defined : skeleton.half = .definition → ∀ field, skeleton.valueCount field = 1

theorem declaredValue?_eq_none_iff :
    skeleton.declaredValue? = none ↔
      (skeleton.half = .declaration → ∀ slot ∈ skeleton.slots, slot.kind = .name) := by
  rw [declaredValue?]
  by_cases declaration : skeleton.half = .declaration
  · rw [if_pos declaration, Option.map_eq_none_iff, List.find?_eq_none]
    constructor
    · intro noValue _ slot listed
      cases kind : slot.kind with
      | name => rfl
      | value => exact absurd (beq_iff_eq.mpr kind) (noValue slot listed)
    · intro named slot listed value
      have name := named declaration slot listed
      rw [name] at value
      contradiction
  · rw [if_neg declaration]
    exact iff_of_true rfl fun same => absurd same declaration

theorem miscounted?_eq_none_iff :
    skeleton.miscounted? = none ↔
      (skeleton.half = .definition → ∀ field, skeleton.valueCount field = 1) := by
  rw [miscounted?]
  by_cases definition : skeleton.half = .definition
  · rw [if_pos definition, List.find?_eq_none]
    constructor
    · intro counted _ field
      simpa using counted field field.mem_all
    · intro once field _
      simpa using once definition field
  · rw [if_neg definition]
    exact iff_of_true rfl fun same => absurd same definition

/-- A skeleton has no fault exactly if it is sound. -/
theorem fault?_eq_none_iff : skeleton.fault? = none ↔ skeleton.Sound := by
  have declared := @declaredValue?_eq_none_iff skeleton
  have defined := @miscounted?_eq_none_iff skeleton
  rw [fault?]
  cases found : skeleton.declaredValue? with
  | some field =>
      rw [found] at declared
      exact iff_of_false (Option.some_ne_none _) fun sound =>
        Option.some_ne_none _ (declared.mpr sound.declared)
  | none =>
      dsimp only
      by_cases ordered : skeleton.fieldOrder = Field.all
      · rw [if_neg (not_not_intro ordered), Option.map_eq_none_iff]
        constructor
        · intro counted
          exact ⟨ordered, declared.mp found, defined.mp counted⟩
        · intro sound
          exact defined.mpr sound.defined
      · rw [if_pos ordered]
        exact iff_of_false (Option.some_ne_none _) fun sound => ordered sound.ordered

/-- A source is parsed exactly if it can be cut into segments that make a sound skeleton. -/
theorem parse_eq_ok_iff_sound {half : Half} {source : String} :
    parse half source = .ok skeleton ↔
      skeleton.half = half ∧ segmentsFrom half false [] source.toList = .ok skeleton.segments ∧
        skeleton.Sound := by
  obtain ⟨own, segments⟩ := skeleton
  rw [parse]
  cases cut : segmentsFrom half false [] source.toList with
  | error fault => simp
  | ok found =>
      dsimp only
      cases faulty : (⟨half, found⟩ : Skeleton).fault? with
      | some fault =>
          refine iff_of_false (fun impossible => by contradiction) ?_
          rintro ⟨rfl, same, sound⟩
          cases same
          exact Option.some_ne_none _ (faulty.symm.trans (fault?_eq_none_iff.mpr sound))
      | none =>
          constructor
          · intro same
            cases same
            exact ⟨rfl, rfl, fault?_eq_none_iff.mp faulty⟩
          · rintro ⟨rfl, same, -⟩
            cases same
            rfl

/-- A skeleton that has been parsed is sound. -/
theorem sound_of_parse_eq_ok {half : Half} {source : String}
    (parsed : parse half source = .ok skeleton) : skeleton.half = half ∧ skeleton.Sound := by
  obtain ⟨own, -, sound⟩ := parse_eq_ok_iff_sound.mp parsed
  exact ⟨own, sound⟩

/-! ## The order of the fields -/

/-- The field of each slot. -/
def slotFields (skeleton : Skeleton) : List Field := skeleton.slots.map Slot.field

theorem firstFields_append (seen : List Field) (slots others : List Slot) :
    firstFields seen (slots ++ others) = firstFields (firstFields seen slots) others := by
  induction slots generalizing seen with
  | nil => rfl
  | cons slot slots ih => exact ih _

theorem mem_firstFields {seen : List Field} {slots : List Slot} :
    field ∈ firstFields seen slots ↔ field ∈ seen ∨ field ∈ slots.map Slot.field := by
  induction slots generalizing seen with
  | nil => simp [firstFields]
  | cons slot slots ih =>
      rw [firstFields, ih, List.map_cons, List.mem_cons]
      by_cases known : seen.contains slot.field = true
      · rw [if_pos known]
        grind
      · rw [if_neg known, List.mem_append, List.mem_singleton, or_assoc]

/-- Fields are listed in the order of their first slots. -/
theorem pairwise_firstFields (slots : List Slot) :
    (firstFields [] slots).Pairwise fun first second =>
      (slots.map Slot.field).idxOf first < (slots.map Slot.field).idxOf second := by
  -- The slots are taken from the back: one more slot leaves the first slots of the others alone.
  induction slots using List.reverseRecOn with
  | nil => exact .nil
  | append_singleton slots slot ih =>
      have kept : (firstFields [] slots).Pairwise fun first second =>
          ((slots ++ [slot]).map Slot.field).idxOf first <
            ((slots ++ [slot]).map Slot.field).idxOf second := by
        refine ih.imp_of_mem fun {first second} listed later less => ?_
        have firstSeen := mem_firstFields.mp listed
        have secondSeen := mem_firstFields.mp later
        rw [List.map_append, List.idxOf_append_of_mem (by simpa using firstSeen),
          List.idxOf_append_of_mem (by simpa using secondSeen)]
        exact less
      rw [firstFields_append, firstFields, firstFields]
      by_cases known : (firstFields [] slots).contains slot.field = true
      · rw [if_pos known]
        exact kept
      · rw [if_neg known, List.pairwise_append]
        refine ⟨kept, List.pairwise_singleton _ _, fun first listed second only => ?_⟩
        rw [List.mem_singleton] at only
        subst only
        have firstSeen : first ∈ slots.map Slot.field := by
          simpa using mem_firstFields.mp listed
        have fresh : slot.field ∉ slots.map Slot.field := by
          intro member
          exact known (List.contains_iff_mem.mpr (mem_firstFields.mpr (.inr member)))
        rw [List.map_append, List.idxOf_append_of_mem firstSeen, List.idxOf_append, if_neg fresh]
        exact Nat.lt_of_lt_of_le (List.idxOf_lt_length_iff.mpr firstSeen) (Nat.le_add_left _ _)

/-- The fields are in canonical order exactly if each of them has a slot and the first slots of
the fields are in canonical order. -/
theorem fieldOrder_eq_all_iff :
    skeleton.fieldOrder = Field.all ↔
      (∀ field, field ∈ skeleton.slotFields) ∧
        ∀ first second : Field, first.index < second.index →
          skeleton.slotFields.idxOf first < skeleton.slotFields.idxOf second := by
  have listed (field : Field) : field ∈ skeleton.fieldOrder ↔ field ∈ skeleton.slotFields := by
    rw [fieldOrder, mem_firstFields, slotFields]
    exact or_iff_right List.not_mem_nil
  have ascending : skeleton.fieldOrder.Pairwise fun first second =>
      skeleton.slotFields.idxOf first < skeleton.slotFields.idxOf second :=
    pairwise_firstFields skeleton.slots
  constructor
  · intro canonical
    rw [canonical] at ascending
    exact ⟨fun field => (listed field).mp (canonical ▸ field.mem_all),
      fun first second => Field.of_pairwise_all ascending⟩
  · rintro ⟨appears, ordered⟩
    -- Both lists hold all fields and go through them in the order of their first slots.
    have canonical := Field.pairwise_all.imp fun {first second} => ordered first second
    have apart {fields : List Field} (pairwise : fields.Pairwise fun first second =>
        skeleton.slotFields.idxOf first < skeleton.slotFields.idxOf second) : fields.Nodup := by
      refine List.Pairwise.imp (fun {first second} less => ?_) pairwise
      rintro rfl
      exact Nat.lt_irrefl _ less
    refine List.Perm.eq_of_pairwise ?_ ascending canonical ?_
    · intro first second _ _ before behind
      exact absurd behind (Nat.lt_asymm before)
    · refine (List.perm_ext_iff_of_nodup (apart ascending) (apart canonical)).mpr fun field => ?_
      exact iff_of_true ((listed field).mpr (appears field)) field.mem_all

/-! ## The place of a value -/

/-- A field with one value slot has one place among the segments. -/
theorem exists_place_of_valueCount (once : skeleton.valueCount field = 1) :
    ∃ before after, skeleton.segments = before ++ .slot ⟨field, .value⟩ :: after ∧
      (∀ segment ∈ before, segment ≠ .slot ⟨field, .value⟩) ∧
      ∀ segment ∈ after, segment ≠ .slot ⟨field, .value⟩ := by
  rw [valueCount, slots, List.filter_filterMap, List.length_eq_one_iff] at once
  obtain ⟨slot, single⟩ := once
  obtain ⟨before, segment, after, split, earlier, here, later⟩ :=
    List.filterMap_eq_cons_iff.mp single
  have apart (other : Segment)
      (unfilled : (other.slot?.filter fun slot => slot == ⟨field, .value⟩) = none) :
      other ≠ .slot ⟨field, .value⟩ := by
    rintro rfl
    simp [Segment.slot?] at unfilled
  have place : segment = .slot ⟨field, .value⟩ := by
    cases segment with
    | text written => simp [Segment.slot?] at here
    | slot found =>
        rw [Segment.slot?, Option.filter_eq_some_iff, beq_iff_eq] at here
        rw [Option.some.inj here.1, here.2]
  rw [place] at split
  refine ⟨before, after, split, fun other member => apart other (earlier other member), ?_⟩
  exact fun other member => apart other (List.filterMap_eq_nil_iff.mp later other member)

end Imprint.Skeleton
