import Imprint.Proofs.Except
import Imprint.Proofs.Template.Skeleton
import Mathlib.Data.List.Chain

/-!
# Sources of skeletons

A source is cut at the first pair of opening braces, and behind it at the first pair of closing
ones.  So there is one way only to read a source as texts and placeholders: no text holds two
opening braces, no text before a placeholder ends with one, and two texts do not meet.  Main
statement: a source is parsed exactly if it can be read like this and its slots are complete, the
skeleton is made of the pieces that are read, and writing it out again does not change it.
-/

namespace Imprint

open Text

/-! ## Placeholders -/

/-- A text without its white space. -/
def Text.ink (text : List Char) : List Char := text.filter fun c => !isBlank c

namespace Field

/-- The names that a field goes by in placeholders. -/
def placeholderNames : Field → List String
  | .commitDescriptor => ["CommitDescriptor", "CommitSmart", "CommitTagOrBranch"]
  | field => [field.name]

theorem ofPlaceholder?_eq_some_iff {name : String} {field : Field} :
    ofPlaceholder? name = some field ↔ name ∈ field.placeholderNames := by
  constructor
  · intro known
    unfold ofPlaceholder? at known
    split at known <;> cases known <;> decide
  · intro listed
    have known : ∀ field : Field, ∀ name ∈ field.placeholderNames,
        ofPlaceholder? name = some field := by
      intro field
      cases field <;> decide
    exact known field name listed

/-- Names in placeholders are plain: they hold no white space, no point and no brace. -/
theorem plain_of_mem_placeholderNames {name : String} {field : Field}
    (known : name ∈ field.placeholderNames) {c : Char} (member : c ∈ name.toList) :
    isBlank c = false ∧ c ≠ '.' ∧ c ≠ '{' ∧ c ≠ '}' := by
  have plain : ∀ field : Field, ∀ name ∈ field.placeholderNames,
      name.toList.all fun c => isBlank c = false ∧ c ≠ '.' ∧ c ≠ '{' ∧ c ≠ '}' := by
    intro field
    cases field <;> decide
  exact of_decide_eq_true (List.all_eq_true.mp (plain field name known) c member)

end Field

/-- What a placeholder says to be filled with a name or with a value. -/
def SlotKind.accessor : SlotKind → String
  | .name => "name"
  | .value => "value"

/-- A text without white space that names a slot: a name of its field, and what the slot is filled
with unless this goes without saying. -/
inductive Slot.NamedBy (half : Half) : Slot → List Char → Prop
  | byDefault {field : Field} {name : String} (known : name ∈ field.placeholderNames) :
      NamedBy half ⟨field, half.defaultSlot⟩ name.toList
  | byAccessor {field : Field} {name : String} (known : name ∈ field.placeholderNames)
      (kind : SlotKind) : NamedBy half ⟨field, kind⟩ (name.toList ++ '.' :: kind.accessor.toList)

theorem splitFirst_of_not_mem {mark : Char} {text : List Char} (absent : mark ∉ text) :
    splitFirst mark text = (text, none) := by
  induction text with
  | nil => rfl
  | cons c text ih =>
      rw [List.mem_cons, not_or] at absent
      have other : (c == mark) = false := beq_eq_false_iff_ne.mpr (Ne.symm absent.1)
      simp [splitFirst, other, ih absent.2]

theorem splitFirst_append {mark : Char} {text : List Char} (absent : mark ∉ text)
    (rest : List Char) : splitFirst mark (text ++ mark :: rest) = (text, some rest) := by
  induction text with
  | nil => simp [splitFirst]
  | cons c text ih =>
      rw [List.mem_cons, not_or] at absent
      have other : (c == mark) = false := beq_eq_false_iff_ne.mpr (Ne.symm absent.1)
      simp [splitFirst, other, ih absent.2]

/-- Nothing is lost but the mark. -/
theorem eq_of_splitFirst {mark : Char} {text before : List Char} {behind : Option (List Char)}
    (split : splitFirst mark text = (before, behind)) :
    text = before ++ (behind.elim [] fun rest => mark :: rest) := by
  induction text generalizing before with
  | nil =>
      cases split
      rfl
  | cons c text ih =>
      rw [splitFirst] at split
      by_cases here : (c == mark) = true
      · rw [if_pos here] at split
        cases split
        rw [beq_iff_eq.mp here]
        rfl
      · rw [if_neg here] at split
        cases split
        rw [List.cons_append, ← ih rfl]

namespace Slot

variable {half : Half} {slot : Slot} {inside : List Char}

/-- A placeholder is accepted exactly if its inside names a slot. -/
theorem parse_eq_ok_iff : parse half inside = .ok slot ↔ slot.NamedBy half (ink inside) := by
  constructor
  · intro parsed
    rcases split : splitFirst '.' (inside.filter fun c => !isBlank c) with ⟨name, accessor⟩
    have whole : ink inside = _ := eq_of_splitFirst split
    simp only [parse, split] at parsed
    cases known : Field.ofPlaceholder? (String.ofList name) with
    | none =>
        rw [known] at parsed
        contradiction
    | some field =>
        rw [known] at parsed
        have listed := Field.ofPlaceholder?_eq_some_iff.mp known
        cases accessor with
        | none =>
            cases parsed
            rw [whole, Option.elim_none, List.append_nil, ← String.toList_ofList (l := name)]
            exact .byDefault listed
        | some rest =>
            have spelled (kind : SlotKind) (same : String.ofList rest = kind.accessor) :
                NamedBy half ⟨field, kind⟩ (ink inside) := by
              rw [whole, Option.elim_some, ← String.toList_ofList (l := name),
                ← String.toList_ofList (l := rest), same]
              exact .byAccessor listed kind
            simp only [Option.map_some] at parsed
            split at parsed
            · contradiction
            · next same =>
                cases parsed
                exact spelled .name (Option.some.inj same)
            · next same =>
                cases parsed
                exact spelled .value (Option.some.inj same)
            · contradiction
  · generalize compact : ink inside = text
    change (inside.filter fun c => !isBlank c) = text at compact
    rintro (⟨known⟩ | ⟨known, kind⟩)
    all_goals
      have pointless := fun member => (Field.plain_of_mem_placeholderNames known member).2.1 rfl
      have found := Field.ofPlaceholder?_eq_some_iff.mpr known
    · simp only [parse, compact, splitFirst_of_not_mem pointless, String.ofList_toList, found]
      rfl
    · simp only [parse, compact, splitFirst_append pointless, String.ofList_toList, found]
      cases kind <;> rfl

/-- A text that names a slot is plain. -/
theorem NamedBy.plain {text : List Char} (named : slot.NamedBy half text) {c : Char}
    (member : c ∈ text) : isBlank c = false ∧ c ≠ '{' ∧ c ≠ '}' := by
  cases named with
  | byDefault known =>
      obtain ⟨ink, -, braceless⟩ := Field.plain_of_mem_placeholderNames known member
      exact ⟨ink, braceless⟩
  | byAccessor known kind =>
      rcases List.mem_append.mp member with before | behind
      · obtain ⟨ink, -, braceless⟩ := Field.plain_of_mem_placeholderNames known before
        exact ⟨ink, braceless⟩
      · have plain : ∀ kind : SlotKind, ('.' :: kind.accessor.toList).all fun c =>
            isBlank c = false ∧ c ≠ '{' ∧ c ≠ '}' := by
          intro kind
          cases kind <;> decide
        exact of_decide_eq_true (List.all_eq_true.mp (plain kind) c behind)

/-- The inside of a placeholder holds no braces. -/
theorem NamedBy.not_mem_inside (named : slot.NamedBy half (ink inside)) {c : Char}
    (brace : c = '{' ∨ c = '}') : c ∉ inside := by
  intro member
  have solid : isBlank c = false := by rcases brace with rfl | rfl <;> decide
  have kept : c ∈ ink inside := List.mem_filter.mpr ⟨member, by rw [solid]; rfl⟩
  obtain ⟨-, notOpening, notClosing⟩ := named.plain kept
  exact brace.elim notOpening notClosing

end Slot

/-! ## Pairs of braces -/

/-- Whether a brace stands twice in a row somewhere in a text. -/
def Doubled (brace : Char) (text : List Char) : Prop := [brace, brace] <:+: text

theorem doubled_cons_cons {brace c next : Char} {text : List Char} :
    Doubled brace (c :: next :: text) ↔
      (c = brace ∧ next = brace) ∨ Doubled brace (next :: text) := by
  rw [Doubled, List.infix_cons_iff, List.cons_prefix_cons, List.cons_prefix_cons, Doubled]
  simp [eq_comm]

theorem not_doubled_singleton (brace c : Char) : ¬ Doubled brace [c] := by
  intro within
  have long := within.length_le
  simp at long

/-- One more brace makes a pair only if it follows another. -/
theorem doubled_concat_iff {brace : Char} {text : List Char} :
    Doubled brace (text ++ [brace]) ↔ Doubled brace text ∨ text.getLast? = some brace := by
  rw [Doubled, List.infix_concat_iff, List.suffix_concat_iff, or_comm]
  refine or_congr Iff.rfl ?_
  rw [← List.singleton_suffix_iff_getLast?_eq_some]
  constructor
  · rintro (impossible | ⟨text', same, ends⟩)
    · contradiction
    · have only : text' = [brace] := by
        have := List.append_inj' (show [brace] ++ [brace] = text' ++ [brace] from same) rfl
        exact this.1.symm
      exact only ▸ ends
  · intro ends
    exact .inr ⟨[brace], rfl, ends⟩

/-- A text is cut at the first pair of braces, unless it holds none. -/
theorem not_doubled_or_exists_first (brace : Char) (text : List Char) :
    ¬ Doubled brace text ∨
      ∃ before behind, text = before ++ brace :: brace :: behind ∧
        ¬ Doubled brace (before ++ [brace]) := by
  induction text with
  | nil => exact .inl (by simp [Doubled])
  | cons c text ih =>
      cases text with
      | nil => exact .inl (not_doubled_singleton brace c)
      | cons next text =>
          by_cases here : c = brace ∧ next = brace
          · obtain ⟨rfl, rfl⟩ := here
            exact .inr ⟨[], text, rfl, not_doubled_singleton _ _⟩
          · rcases ih with absent | ⟨before, behind, cut, first⟩
            · exact .inl fun within => (doubled_cons_cons.mp within).elim here absent
            · refine .inr ⟨c :: before, behind, by rw [cut]; rfl, ?_⟩
              cases before with
              | nil =>
                  cases cut
                  exact fun within => (doubled_cons_cons.mp within).elim here first
              | cons other before =>
                  cases cut
                  exact fun within => (doubled_cons_cons.mp within).elim here first

/-! ## Cutting a source -/

/-- The brace that ends what is being read, a placeholder or a text. -/
def endingBrace (inside : Bool) : Char := if inside then '}' else '{'

section Cutting

variable {half : Half} {segments : List Segment}

theorem segmentsFrom_cons_cons {inside : Bool} {c next : Char} {text : List Char}
    (single : ¬ Doubled (endingBrace inside) (c :: next :: text)) (current rest : List Char) :
    segmentsFrom half inside current (c :: next :: rest) =
      segmentsFrom half inside (current ++ [c]) (next :: rest) := by
  have unpaired : ¬ (c == endingBrace inside && next == endingBrace inside) = true := by
    rw [Bool.and_eq_true, beq_iff_eq, beq_iff_eq]
    exact fun pair => single (doubled_cons_cons.mpr (.inl pair))
  cases inside with
  | false =>
      rw [segmentsFrom, if_neg Bool.false_ne_true]
      exact if_neg unpaired
  | true =>
      rw [segmentsFrom, if_pos rfl]
      exact if_neg unpaired

/-- Nothing ends before the first pair of braces. -/
theorem segmentsFrom_append (inside : Bool) {text : List Char} {next : Char}
    (single : ¬ Doubled (endingBrace inside) (text ++ [next])) (current rest : List Char) :
    segmentsFrom half inside current (text ++ next :: rest) =
      segmentsFrom half inside (current ++ text) (next :: rest) := by
  induction text generalizing current with
  | nil => rw [List.append_nil, List.nil_append]
  | cons c text ih =>
      have later : ¬ Doubled (endingBrace inside) (text ++ [next]) := fun within =>
        single (within.trans (List.suffix_cons c _).isInfix)
      have step := ih later (current ++ [c])
      rw [List.append_assoc, List.singleton_append] at step
      rw [← step, List.cons_append]
      cases text with
      | nil => exact segmentsFrom_cons_cons single _ _
      | cons other text => exact segmentsFrom_cons_cons single _ _

/-- A text before a placeholder ends with the first pair of opening braces. -/
theorem segmentsFrom_open {text : List Char} (first : ¬ Doubled '{' (text ++ ['{']))
    (behind : List Char) :
    segmentsFrom half false [] (text ++ '{' :: '{' :: behind) =
      segmentsFrom half true [] behind >>= fun segments =>
        .ok (textSegment text ++ segments) := by
  rw [segmentsFrom_append false first]
  rfl

/-- A placeholder ends with the first pair of closing braces. -/
theorem segmentsFrom_close {inside : List Char} (first : ¬ Doubled '}' (inside ++ ['}']))
    (rest : List Char) :
    segmentsFrom half true [] (inside ++ '}' :: '}' :: rest) =
      Slot.parse half inside >>= fun slot =>
        segmentsFrom half false [] rest >>= fun segments => .ok (.slot slot :: segments) := by
  rw [segmentsFrom_append true first]
  rfl

/-- Without a pair of braces a text goes on to the end, and a placeholder does not end at all. -/
theorem segmentsFrom_of_not_doubled (inside : Bool) {text : List Char}
    (absent : ¬ Doubled (endingBrace inside) text) :
    segmentsFrom half inside [] text =
      if inside then .error (.unterminatedPlaceholder half) else .ok (textSegment text) := by
  rcases List.eq_nil_or_concat' text with rfl | ⟨front, last, rfl⟩
  · rfl
  · rw [segmentsFrom_append inside absent]
    rfl

end Cutting

/-! ## Texts and placeholders -/

/-- A piece of a source that is read as a segment: a text as it stands, a slot as a placeholder
that names it. -/
inductive Segment.WrittenAs (half : Half) : Segment → List Char → Prop
  | text (text : String) : WrittenAs half (.text text) text.toList
  | slot {slot : Slot} {inside : List Char} (named : slot.NamedBy half (ink inside)) :
      WrittenAs half (.slot slot) ('{' :: '{' :: (inside ++ ['}', '}']))

/-- A source that segments are written as, one behind the other. -/
inductive WrittenAs (half : Half) : List Segment → List Char → Prop
  | nil : WrittenAs half [] []
  | cons {segment : Segment} {segments : List Segment} {piece source : List Char}
      (first : segment.WrittenAs half piece) (others : WrittenAs half segments source) :
      WrittenAs half (segment :: segments) (piece ++ source)

/-- Whether one segment may stand before another: two texts would be one, and a brace at the end of
a text would be taken for one of the placeholder behind it. -/
def Segment.MayPrecede : Segment → Segment → Prop
  | .text _, .text _ => False
  | .text before, .slot _ => before.toList.getLast? ≠ some '{'
  | .slot _, _ => True

/-- Segments that can be told apart in what they are written as. -/
structure Separate (segments : List Segment) : Prop where
  nonempty : ∀ text, .text text ∈ segments → text ≠ ""
  unopened : ∀ text, .text text ∈ segments → ¬ Doubled '{' text.toList
  apart : segments.IsChain Segment.MayPrecede

namespace Separate

variable {segments : List Segment}

theorem nil : Separate [] := ⟨by simp, by simp, .nil⟩

theorem tail {segment : Segment} (separate : Separate (segment :: segments)) :
    Separate segments where
  nonempty text member := separate.nonempty text (List.mem_cons_of_mem _ member)
  unopened text member := separate.unopened text (List.mem_cons_of_mem _ member)
  apart := separate.apart.tail

theorem slot (separate : Separate segments) (slot : Slot) : Separate (.slot slot :: segments) where
  nonempty text member := separate.nonempty text (by simpa using member)
  unopened text member := separate.unopened text (by simpa using member)
  apart := List.isChain_cons.mpr ⟨fun _ _ => trivial, separate.apart⟩

/-- The text at the end of a source, which may be missing. -/
theorem textSegment {text : List Char} (unopened : ¬ Doubled '{' text) :
    Separate (textSegment text) := by
  cases text with
  | nil => exact nil
  | cons c rest =>
      refine ⟨?_, ?_, .singleton _⟩
      all_goals
        intro written member
        obtain rfl : written = String.ofList (c :: rest) := by
          simpa [Imprint.textSegment] using member
      · simp
      · rwa [String.toList_ofList]

/-- A text before a placeholder, which may be missing. -/
theorem textSegment_append {text : List Char} {slot : Slot}
    (single : ¬ Doubled '{' (text ++ ['{'])) (separate : Separate (.slot slot :: segments)) :
    Separate (Imprint.textSegment text ++ .slot slot :: segments) := by
  rw [doubled_concat_iff, not_or] at single
  have before := textSegment single.1
  refine ⟨fun written member => ?_, fun written member => ?_, ?_⟩
  · exact (List.mem_append.mp member).elim (before.nonempty _) (separate.nonempty _)
  · exact (List.mem_append.mp member).elim (before.unopened _) (separate.unopened _)
  · cases text with
    | nil => exact separate.apart
    | cons c rest =>
        refine List.isChain_cons_cons.mpr ⟨?_, separate.apart⟩
        rw [Segment.MayPrecede, String.toList_ofList]
        exact single.2

end Separate

theorem textSegment_toList {text : String} (nonempty : text ≠ "") :
    textSegment text.toList = [.text text] := by
  rw [textSegment, if_neg (by simpa using nonempty), String.ofList_toList]

theorem WrittenAs.textSegment_append {half : Half} {segments : List Segment}
    {source : List Char} (written : WrittenAs half segments source) (text : List Char) :
    WrittenAs half (textSegment text ++ segments) (text ++ source) := by
  cases text with
  | nil => exact written
  | cons c rest =>
      have first : Segment.WrittenAs half _ _ := .text (String.ofList (c :: rest))
      rw [String.toList_ofList] at first
      exact .cons first written

/-! ## Reading a source -/

section Reading

variable {half : Half}

/-- The segments that a source is cut into are separate, and the source is what they are written
as. -/
theorem written_and_separate_of_segmentsFrom {source : List Char} {segments : List Segment}
    (cut : segmentsFrom half false [] source = .ok segments) :
    WrittenAs half segments source ∧ Separate segments := by
  -- Induction on the length: what is left behind a placeholder is a shorter source.
  induction length : source.length using Nat.strong_induction_on generalizing source segments with
  | _ length ih =>
  rcases not_doubled_or_exists_first '{' source with absent | ⟨text, behind, rfl, first⟩
  · rw [segmentsFrom_of_not_doubled false absent] at cut
    cases cut
    have written : WrittenAs half _ _ := WrittenAs.nil.textSegment_append source
    rw [List.append_nil, List.append_nil] at written
    exact ⟨written, .textSegment absent⟩
  · rw [segmentsFrom_open first, bind_eq_ok_iff] at cut
    obtain ⟨segments, opened, done⟩ := cut
    cases done
    rcases not_doubled_or_exists_first '}' behind with absent | ⟨inside, rest, rfl, closes⟩
    · rw [segmentsFrom_of_not_doubled true absent] at opened
      contradiction
    · rw [segmentsFrom_close closes, bind_eq_ok_iff] at opened
      obtain ⟨slot, parsed, opened⟩ := opened
      obtain ⟨segments, left, done⟩ := bind_eq_ok_iff.mp opened
      cases done
      obtain ⟨written, separate⟩ := ih rest.length (by simp at length; omega) left rfl
      have named := Slot.parse_eq_ok_iff.mp parsed
      have whole := (WrittenAs.cons (.slot named) written).textSegment_append text
      refine ⟨?_, (separate.slot slot).textSegment_append first⟩
      simpa using whole

/-- What separate segments are written as is cut into these segments. -/
theorem segmentsFrom_of_written {source : List Char} {segments : List Segment}
    (written : WrittenAs half segments source) (separate : Separate segments) :
    segmentsFrom half false [] source = .ok segments := by
  induction written with
  | nil => rfl
  | @cons segment segments piece source first others ih =>
      have rest := ih separate.tail
      cases first with
      | @slot slot inside named =>
          have closes : ¬ Doubled '}' (inside ++ ['}']) := by
            rw [doubled_concat_iff, not_or]
            have absent : '}' ∉ inside := named.not_mem_inside (.inr rfl)
            exact ⟨fun within => absent (within.subset List.mem_cons_self),
              fun last => absent (List.mem_of_getLast? last)⟩
          have piece : '{' :: '{' :: (inside ++ ['}', '}']) ++ source =
              '{' :: '{' :: (inside ++ '}' :: '}' :: source) := by simp
          have opens := @segmentsFrom_open half [] (not_doubled_singleton '{' '{')
            (inside ++ '}' :: '}' :: source)
          rw [List.nil_append] at opens
          rw [piece, opens, segmentsFrom_close closes, Slot.parse_eq_ok_iff.mpr named, rest]
          rfl
      | text before =>
          have unopened := separate.unopened before List.mem_cons_self
          have present := textSegment_toList (separate.nonempty before List.mem_cons_self)
          cases others with
          | nil => rw [List.append_nil, segmentsFrom_of_not_doubled false unopened, present]; rfl
          | @cons next segments piece source second others =>
              have apart := (List.isChain_cons_cons.mp separate.apart).1
              cases second with
              | text other => exact apart.elim
              | @slot slot inside named =>
                  have single := doubled_concat_iff.not.mpr (not_or.mpr ⟨unopened, apart⟩)
                  have opens := @segmentsFrom_open half [] (not_doubled_singleton '{' '{')
                    (inside ++ ['}', '}'] ++ source)
                  have opened := opens.symm.trans rest
                  obtain ⟨_, opened, done⟩ := bind_eq_ok_iff.mp opened
                  cases done
                  have whole := @segmentsFrom_open half _ single (inside ++ ['}', '}'] ++ source)
                  rw [opened, present] at whole
                  exact whole

end Reading

/-! ## Complete skeletons -/

namespace Skeleton

variable {skeleton : Skeleton}

/-- The slots that a skeleton needs: every field has one, the first slots of the fields are in
canonical order, and values stand in definitions only, one for each field. -/
structure Complete (skeleton : Skeleton) : Prop where
  appears : ∀ field, field ∈ skeleton.slotFields
  ordered : ∀ first second : Field, first.index < second.index →
    skeleton.slotFields.idxOf first < skeleton.slotFields.idxOf second
  declared : skeleton.half = .declaration → ∀ slot ∈ skeleton.slots, slot.kind = .name
  defined : skeleton.half = .definition → ∀ field, skeleton.slots.count ⟨field, .value⟩ = 1

theorem sound_iff_complete : skeleton.Sound ↔ skeleton.Complete := by
  have counted (field : Field) : skeleton.valueCount field = skeleton.slots.count ⟨field, .value⟩ :=
    List.count_eq_length_filter.symm
  constructor
  · rintro ⟨canonical, declared, defined⟩
    obtain ⟨appears, ordered⟩ := fieldOrder_eq_all_iff.mp canonical
    exact ⟨appears, ordered, declared,
      fun half field => (counted field).symm.trans (defined half field)⟩
  · rintro ⟨appears, ordered, declared, defined⟩
    exact ⟨fieldOrder_eq_all_iff.mpr ⟨appears, ordered⟩, declared,
      fun half field => (counted field).trans (defined half field)⟩

end Skeleton

/-! ## Writing a source out -/

/-- The placeholder of a slot that leaves nothing unsaid. -/
def Slot.fullPlaceholder (slot : Slot) : String :=
  "\x7b\x7b" ++ slot.field.name ++ "." ++ slot.kind.accessor ++ "\x7d\x7d"

/-- The source of a segment with full placeholders. -/
def Segment.fullSource : Segment → String
  | .text written => written
  | .slot place => place.fullPlaceholder

/-- The source of a skeleton with full placeholders. -/
def Skeleton.fullSource (skeleton : Skeleton) : String :=
  String.join (skeleton.segments.map Segment.fullSource)

/-- A full placeholder names its slot in both halves. -/
theorem Slot.namedBy_fullPlaceholder (half : Half) (slot : Slot) :
    slot.NamedBy half (ink (slot.field.name.toList ++ '.' :: slot.kind.accessor.toList)) := by
  have known : slot.field.name ∈ slot.field.placeholderNames := by
    cases slot.field <;> decide
  have named : slot.NamedBy half _ := .byAccessor known slot.kind
  have solid : ink (slot.field.name.toList ++ '.' :: slot.kind.accessor.toList) = _ :=
    List.filter_eq_self.mpr fun c member => by rw [(named.plain member).1]; rfl
  rw [solid]
  exact named

theorem Segment.writtenAs_fullSource (half : Half) (segment : Segment) :
    segment.WrittenAs half segment.fullSource.toList := by
  cases segment with
  | text written => exact .text written
  | slot place =>
      have written := Segment.WrittenAs.slot (place.namedBy_fullPlaceholder half)
      simpa [fullSource, Slot.fullPlaceholder] using written

theorem Skeleton.writtenAs_fullSource (half : Half) (skeleton : Skeleton) :
    WrittenAs half skeleton.segments skeleton.fullSource.toList := by
  rw [fullSource, String.toList_join]
  induction skeleton.segments with
  | nil => exact .nil
  | cons segment segments ih => exact .cons (segment.writtenAs_fullSource half) ih

/-- A source is parsed exactly if it is what separate and complete segments are written as.  The
skeleton has these segments, in this order, and its own source gives the same skeleton again. -/
theorem Skeleton.parse_eq_ok_iff_and_parse_fullSource (half : Half) (source : String)
    (skeleton : Skeleton) :
    (parse half source = .ok skeleton ↔
      skeleton.half = half ∧ WrittenAs half skeleton.segments source.toList ∧
        Separate skeleton.segments ∧ skeleton.Complete) ∧
    (parse half source = .ok skeleton → parse half skeleton.fullSource = .ok skeleton) := by
  have read (source : String) : parse half source = .ok skeleton ↔
      skeleton.half = half ∧ WrittenAs half skeleton.segments source.toList ∧
        Separate skeleton.segments ∧ skeleton.Complete := by
    rw [parse_eq_ok_iff_sound, sound_iff_complete]
    refine and_congr_right fun _ => ?_
    constructor
    · rintro ⟨cut, complete⟩
      obtain ⟨written, separate⟩ := written_and_separate_of_segmentsFrom cut
      exact ⟨written, separate, complete⟩
    · rintro ⟨written, separate, complete⟩
      exact ⟨segmentsFrom_of_written written separate, complete⟩
  refine ⟨read source, fun parsed => ?_⟩
  obtain ⟨own, -, separate, complete⟩ := (read source).mp parsed
  exact (read skeleton.fullSource).mpr
    ⟨own, skeleton.writtenAs_fullSource half, separate, complete⟩

/-- A declaration with braces wherever they can stand next to a placeholder, and with white space
inside of one. -/
def bracedSource : String :=
  "\x7d\x7b \x7b\x7b Ver sion \x7d\x7d\x7d\x7b\x7bCommitHash.name\x7d\x7d" ++
  "\x7b\x7bCommitDate\x7d\x7d \x7b\x7bCommitTagOrBranch\x7d\x7d" ++
  "\x7b\x7bBuildDate\x7d\x7d\x7d\x7d\x7b"

/-- The skeleton of this declaration. -/
def bracedSkeleton : Skeleton where
  half := .declaration
  segments := [.text "\x7d\x7b ", .slot ⟨.version, .name⟩, .text "\x7d", .slot ⟨.commitHash, .name⟩,
    .slot ⟨.commitDate, .name⟩, .text " ", .slot ⟨.commitDescriptor, .name⟩,
    .slot ⟨.buildDate, .name⟩, .text "\x7d\x7d\x7b"]

/-- Single opening braces, and closing braces of any number, belong to the texts. -/
theorem parse_bracedSource :
    Skeleton.parse .declaration bracedSource = .ok bracedSkeleton ∧
      WrittenAs .declaration bracedSkeleton.segments bracedSource.toList ∧
      Separate bracedSkeleton.segments ∧
      Skeleton.parse .declaration bracedSkeleton.fullSource = .ok bracedSkeleton := by
  have parsed : Skeleton.parse .declaration bracedSource = .ok bracedSkeleton := by
    decide +kernel
  obtain ⟨read, again⟩ :=
    Skeleton.parse_eq_ok_iff_and_parse_fullSource .declaration bracedSource bracedSkeleton
  obtain ⟨-, written, separate, -⟩ := read.mp parsed
  exact ⟨parsed, written, separate, again parsed⟩

end Imprint
