import Imprint.Proofs.Literal.RoundTrip
import Imprint.Proofs.Rendering.Builtin

/-!
# Reading a record back from its definition

Where each value of a frame is the inside of a literal, the literal reader of the style gives the
values back: the text in front of a literal is known, and so is the length of what the literal was
written with.  Main statement: a built-in definition determines its record.
-/

namespace Imprint

/-! ## Literals on their own -/

namespace LiteralStyle

variable {style : LiteralStyle}

/-- Whether a text ends with the opening quote of a literal. -/
def opensLiteral (style : LiteralStyle) (text : List Char) : Bool :=
  text.getLast? == some style.quote

/-- Whether a text begins with the closing quote of a literal and goes on with something that
cannot be joined to the literal. -/
def closesLiteral (style : LiteralStyle) (text : List Char) : Bool :=
  text.head? == some style.quote && text.tail.head?.any fun c => c != '\'' && c != '\\'

theorem exists_of_opensLiteral {text : List Char} (opens : style.opensLiteral text = true) :
    ∃ before, text = before ++ [style.quote] :=
  List.getLast?_eq_some_iff.mp (beq_iff_eq.mp opens)

theorem exists_of_closesLiteral {text : List Char} (closes : style.closesLiteral text = true) :
    ∃ c rest, text = style.quote :: c :: rest ∧ c ≠ '\'' ∧ c ≠ '\\' := by
  rw [closesLiteral, Bool.and_eq_true, beq_iff_eq, Option.any_eq_true] at closes
  obtain ⟨quote, c, next, separates⟩ := closes
  obtain ⟨behind, rfl⟩ := List.head?_eq_some_iff.mp quote
  obtain ⟨rest, rfl⟩ := List.head?_eq_some_iff.mp next
  rw [Bool.and_eq_true, bne_iff_ne, bne_iff_ne] at separates
  exact ⟨c, rest, rfl, separates⟩

theorem opensLiteral_append {text : List Char} (opens : style.opensLiteral text = true)
    (before : List Char) : style.opensLiteral (before ++ text) = true := by
  obtain ⟨earlier, rfl⟩ := exists_of_opensLiteral opens
  rw [opensLiteral, ← List.append_assoc, List.getLast?_concat, beq_self_eq_true]

theorem closesLiteral_append {text : List Char} (closes : style.closesLiteral text = true)
    (more : List Char) : style.closesLiteral (text ++ more) = true := by
  obtain ⟨c, rest, rfl, -, -⟩ := exists_of_closesLiteral closes
  exact closes

/-- A quoted value is read back if the text behind it cannot be joined to it. -/
theorem read_append_closing (value : String) {closing : List Char}
    (closes : style.closesLiteral closing = true) (more : List Char) :
    ∃ rest, style.read (style.quote :: (style.escapeChars value.toList ++ (closing ++ more))) =
      some (value, rest) := by
  obtain ⟨c, rest, rfl, noQuote, noBackslash⟩ := exists_of_closesLiteral closes
  rw [List.cons_append]
  cases style with
  | shell =>
      exact ⟨_, read_singleQuoted value (by simpa using noQuote) (by simpa using noBackslash)⟩
  | c | go | rust | python | javaScript | java | cSharp | json =>
      exact ⟨_, read_doubleQuoted rfl value _⟩

end LiteralStyle

/-! ## Frames of literals -/

/-- Whether every place of a frame is the inside of a literal. -/
def quotedPlaces (style : LiteralStyle) (head : List Char) : List (Field × List Char) → Bool
  | [] => true
  | (_, next) :: places =>
      style.opensLiteral head && style.closesLiteral next && quotedPlaces style next.tail places

/-- The values of the literals at the places of a frame, in order. -/
def readPlaces (style : LiteralStyle) (head : List Char) :
    List (Field × List Char) → List Char → Option (List (Field × String))
  | [], _ => some []
  | (field, next) :: places, text => do
      let literal := text.drop (head.length - 1)
      let (value, _) ← style.read literal
      let behind := literal.drop ((style.escapeChars value.toList).length + 2)
      let values ← readPlaces style next.tail places behind
      return (field, value) :: values

namespace Frame

/-- The record that a filled frame of literals holds.  Fields without a place are left empty. -/
def record? (frame : Frame) (style : LiteralStyle) (text : List Char) : Option Record :=
  (readPlaces style frame.head frame.places text).map fun values =>
    PerField.ofFunction fun field => (values.lookup field).getD ""

/-- The values of quoted places are read back from the filled text. -/
theorem readPlaces_fillPlaces {style : LiteralStyle} {head : List Char}
    {places : List (Field × List Char)} (quoted : quotedPlaces style head places = true)
    (value : Field → String) :
    readPlaces style head places
        (head ++ fillPlaces (fun field => style.escapeChars (value field).toList) places) =
      some (places.map fun place => (place.1, value place.1)) := by
  induction places generalizing head with
  | nil => rfl
  | cons place places ih =>
      obtain ⟨field, next⟩ := place
      rw [quotedPlaces, Bool.and_eq_true, Bool.and_eq_true] at quoted
      obtain ⟨⟨opens, closes⟩, others⟩ := quoted
      obtain ⟨before, rfl⟩ := LiteralStyle.exists_of_opensLiteral opens
      obtain ⟨c, rest, rfl, -, -⟩ := LiteralStyle.exists_of_closesLiteral closes
      let more := fillPlaces (fun field => style.escapeChars (value field).toList) places
      have literal : (before ++ [style.quote] ++ (style.escapeChars (value field).toList ++
            style.quote :: c :: rest ++ more)).drop ((before ++ [style.quote]).length - 1) =
          style.quote :: (style.escapeChars (value field).toList ++
            (style.quote :: c :: rest ++ more)) := by
        rw [List.length_append, List.length_singleton, Nat.add_sub_cancel, List.append_assoc,
          List.drop_left, List.append_assoc]
        rfl
      have behind : (style.quote :: (style.escapeChars (value field).toList ++
            (style.quote :: c :: rest ++ more))).drop
              ((style.escapeChars (value field).toList).length + 2) =
          c :: rest ++ more := by
        rw [List.drop_succ_cons, List.drop_append]
        simp
      obtain ⟨translated, found⟩ := style.read_append_closing (value field) closes more
      simp only [readPlaces, fillPlaces_cons]
      rw [literal, found, Option.bind_eq_bind, Option.bind_some, behind]
      rw [List.tail_cons] at others ⊢
      rw [ih others]
      rfl

theorem lookup_map_of_mem {places : List (Field × List Char)} {field : Field}
    (placed : field ∈ places.map Prod.fst) (value : Field → String) :
    (places.map fun place => (place.1, value place.1)).lookup field = some (value field) := by
  induction places with
  | nil => exact absurd placed List.not_mem_nil
  | cons place places ih =>
      rw [List.map_cons, List.lookup_cons]
      by_cases here : field = place.1
      · rw [here, beq_self_eq_true]
      · rw [beq_false_of_ne here]
        rw [List.map_cons, List.mem_cons] at placed
        exact ih (placed.resolve_left here)

/-- A record is read back from a frame of literals that has a place for every field. -/
theorem record?_fill {frame : Frame} {style : LiteralStyle}
    (quoted : quotedPlaces style frame.head frame.places = true)
    (complete : ∀ field, field ∈ frame.places.map Prod.fst) (record : Record) :
    frame.record? style (frame.fill fun field => style.escapeChars (record.get field).toList) =
      some record := by
  rw [record?, fill, readPlaces_fillPlaces quoted record.get, Option.map_some]
  refine congrArg some (PerField.ext_get fun field => ?_)
  rw [PerField.get_ofFunction, lookup_map_of_mem (complete field), Option.getD_some]

end Frame

/-! ## Definitions -/

namespace Skeleton

variable {head opening between tail : String} {style : LiteralStyle}

/-- A definition that binds names to literals has a place for every field. -/
theorem mem_places_bindings (spellings : Spellings) (field : Field) :
    field ∈ ((bindings head opening between tail).frame spellings).places.map Prod.fst :=
  field.mem_all

/-- Whether the values of a definition that binds names are literals is a matter of the texts
around them. -/
theorem quotedPlaces_bindings (opens : style.opensLiteral opening.toList = true)
    (continues : style.closesLiteral between.toList = true)
    (closes : style.closesLiteral tail.toList = true) (spellings : Spellings) :
    quotedPlaces style ((bindings head opening between tail).frame spellings).head
      ((bindings head opening between tail).frame spellings).places = true := by
  have opened (before : List Char) := LiteralStyle.opensLiteral_append opens before
  have closed (more : List Char) := LiteralStyle.closesLiteral_append continues more
  have nonempty : between.toList ≠ [] := by
    obtain ⟨c, rest, split, -, -⟩ := LiteralStyle.exists_of_closesLiteral continues
    rw [split]
    exact List.cons_ne_nil _ _
  simp only [frame, bindings, frameOf, Frame.prepend, quotedPlaces, List.append_nil,
    List.tail_append_of_ne_nil nonempty, closed, closes]
  simp only [← List.append_assoc, opened, Bool.and_self]

end Skeleton

/-- The record that a definition of a template holds, under the given names. -/
def Template.recordOf? (template : Template) (spellings : Spellings) (definition : String) :
    Option Record :=
  (template.definition.frame spellings).record? template.style definition.toList

namespace Builtin

variable {template : Template}

/-- Every built-in definition binds the names to literals. -/
theorem exists_bindings (listed : template ∈ all) :
    ∃ head opening between tail,
      template.definition = .bindings head opening between tail ∧
      template.style.opensLiteral opening.toList = true ∧
      template.style.closesLiteral between.toList = true ∧
      template.style.closesLiteral tail.toList = true := by
  simp only [all, List.mem_cons, List.not_mem_nil, or_false] at listed
  rcases listed with rfl | rfl | rfl | rfl | rfl | rfl | rfl | rfl | rfl
  all_goals exact ⟨_, _, _, _, rfl, by decide +kernel, by decide +kernel, by decide +kernel⟩

/-- A built-in template renders every record, and the record can be read back from the definition
alone.  So two records that differ in any value have different definitions. -/
theorem recordOf?_definition (listed : template ∈ all) (descriptor : DescriptorName)
    (record : Record) :
    ∃ pair,
      Catalog.builtin.render (.standard descriptor) record template.language = .ok pair ∧
      template.recordOf? (template.standardSpellings descriptor) pair.definition = some record ∧
      ∀ other otherPair,
        Catalog.builtin.render (.standard descriptor) other template.language = .ok otherPair →
        other ≠ record → otherPair.definition ≠ pair.definition := by
  let spellings := template.standardSpellings descriptor
  have recovered (record : Record) :
      template.recordOf? spellings (template.pairOf spellings record).definition =
        some record := by
    obtain ⟨head, opening, between, tail, bound, opens, continues, closes⟩ :=
      exists_bindings listed
    have filled := template.definition.toList_fill template.style spellings record
    rw [Template.recordOf?, Template.pairOf, Pair.ofTexts, filled, bound]
    exact Frame.record?_fill (Skeleton.quotedPlaces_bindings opens continues closes spellings)
      (Skeleton.mem_places_bindings spellings) record
  refine ⟨_, render_language listed descriptor record, recovered record, ?_⟩
  intro other otherPair otherRendered different same
  have otherPair_eq :=
    Except.ok.inj ((render_language listed descriptor other).symm.trans otherRendered)
  have recordOf := recovered other
  rw [otherPair_eq, same, recovered record] at recordOf
  exact different (Option.some.inj recordOf).symm

/-- A value that ends its line and binds the next name does not stand for two values. -/
theorem recordOf?_definition_shell_bound :
    shell ∈ all ∧
      ∃ pair,
        Catalog.builtin.render (.standard .smart)
          ⟨"1'\nCOMMIT_HASH='2", "", "", "", ""⟩ shell.language = .ok pair ∧
        shell.recordOf? (shell.standardSpellings .smart) pair.definition =
          some ⟨"1'\nCOMMIT_HASH='2", "", "", "", ""⟩ ∧
        ∀ other otherPair,
          Catalog.builtin.render (.standard .smart) other shell.language = .ok otherPair →
          other ≠ ⟨"1'\nCOMMIT_HASH='2", "", "", "", ""⟩ →
          otherPair.definition ≠ pair.definition := by
  have listed : shell ∈ all := by simp [all]
  exact ⟨listed, recordOf?_definition listed .smart _⟩

end Builtin

end Imprint
