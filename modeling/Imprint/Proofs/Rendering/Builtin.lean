import Imprint.Catalog
import Imprint.Proofs.Rendering.Consistency
import Imprint.Proofs.Template.Built

/-!
# The built-in templates render consistent pairs

The frames of the nine built-in templates are sealed and name the fields in canonical order.  So
whatever a record holds, the pair that is rendered for it passes its own check.
-/

namespace Imprint

namespace Builtin

variable {template : Template}

theorem standardSpellings_injective (listed : template ∈ all) (descriptor : DescriptorName)
    (first second : Field)
    (same : (template.standardSpellings descriptor).names.get first =
      (template.standardSpellings descriptor).names.get second) : first = second := by
  revert same
  simp only [all, List.mem_cons, List.not_mem_nil, or_false] at listed
  rcases listed with rfl | rfl | rfl | rfl | rfl | rfl | rfl | rfl | rfl
  case inr.inr.inl =>
    cases descriptor <;> cases first <;> cases second <;> decide
  all_goals exact standardNames_injective descriptor _ first second

/-- Every built-in template is spelled. -/
theorem spellingsFor_eq_ok (listed : template ∈ all) (descriptor : DescriptorName) :
    (Registry.standard descriptor).spellingsFor template =
      .ok (template.standardSpellings descriptor) :=
  Registry.spellings_eq_ok template.language (pick_standard template descriptor)
    (standardSpellings_injective listed descriptor)

theorem find_language (listed : template ∈ all) :
    Catalog.builtin.find template.language = .ok template := by
  simp only [all, List.mem_cons, List.not_mem_nil, or_false] at listed
  rcases listed with rfl | rfl | rfl | rfl | rfl | rfl | rfl | rfl | rfl <;> rfl

/-- Every built-in template renders every record. -/
theorem render_language (listed : template ∈ all) (descriptor : DescriptorName)
    (record : Record) :
    Catalog.builtin.render (.standard descriptor) record template.language =
      .ok (template.pairOf (template.standardSpellings descriptor) record) := by
  rw [Catalog.render, find_language listed]
  exact template.render_eq_ok (spellingsFor_eq_ok listed descriptor) record

/-- Apart from its values, every built-in text names the fields once, by their spellings and in
canonical order, whether identifiers are hyphenated or not. -/
theorem frame_namesOnce (listed : template ∈ all) (descriptor : DescriptorName) (half : Half)
    (hyphenated : Bool) :
    ((template.skeleton half).frame (template.standardSpellings descriptor)).NamesOnce
      template.style hyphenated (template.standardSpellings descriptor) := by
  simp only [all, List.mem_cons, List.not_mem_nil, or_false] at listed
  rcases listed with rfl | rfl | rfl | rfl | rfl | rfl | rfl | rfl | rfl
  all_goals
    cases descriptor <;> cases half
    all_goals
      simp only [Frame.NamesOnce, Template.skeleton, Skeleton.frame, frameOf, Frame.prepend,
        Frame.fieldTokens, Spellings.fieldToken?_eq, Field.all, List.find?, c, cSharp, go, java,
        json, python, rust, shell, typeScript, Skeleton.listing, Skeleton.bindings,
        Template.standardSpellings, Spellings.get, standardNames, DescriptorName.choose,
        Overrides.none, PerField.const, PerField.ofFunction, PerField.set, PerField.get,
        Option.getD, reduceIte, reduceCtorEq, String.toList_append]
      repeat rw [String.toList_ofList]
      revert hyphenated
      decide +kernel

/-- Every built-in text names the fields once, by their spellings and in canonical order. -/
theorem namesOnce (listed : template ∈ all) (descriptor : DescriptorName) (half : Half) :
    template.NamesOnce (template.standardSpellings descriptor) half :=
  frame_namesOnce listed descriptor half _

/-- A built-in template renders every record, both texts name the five fields once, by their
spellings and in canonical order, and the pair passes its own check. -/
theorem render_consistent (listed : template ∈ all) (descriptor : DescriptorName)
    (record : Record) :
    ∃ pair,
      (Registry.standard descriptor).spellingsFor template = .ok pair.spellings ∧
      Catalog.builtin.render (.standard descriptor) record template.language = .ok pair ∧
      (∀ half, pair.fieldTokens half = pair.spellings.names.entries) ∧
      Catalog.builtin.renderChecked (.standard descriptor) record template.language = .ok pair ∧
      Catalog.builtin.check (.standard descriptor) template.language none pair.declaration
        pair.definition = .ok () := by
  let spellings := template.standardSpellings descriptor
  let pair := template.pairOf spellings record
  have spelled := spellingsFor_eq_ok listed descriptor
  have found := find_language listed
  have rendered :
      Catalog.builtin.render (.standard descriptor) record template.language = .ok pair :=
    render_language listed descriptor record
  have named (half : Half) : pair.fieldTokens half = pair.spellings.names.entries :=
    Template.fieldTokens_pairOf (namesOnce listed descriptor half) record
  have valid : pair.validate = .ok () := Pair.validate_eq_ok named
  refine ⟨pair, spelled, rendered, named, ?_, ?_⟩
  · simp only [Catalog.renderChecked, rendered, bind, Except.bind, valid]
    rfl
  · simp only [Catalog.check, found, Catalog.expectedSpellings, spelled, bind, Except.bind]
    exact valid

/-- Quotes, comment marks, a placeholder and another field's name change nothing. -/
theorem render_consistent_json_nested :
    json ∈ all ∧
      ∃ pair,
        (Registry.standard .smart).spellingsFor json = .ok pair.spellings ∧
        Catalog.builtin.render (.standard .smart)
          ⟨"\"version\": \"1\\", "/* // # \x7b\x7bVersion\x7d\x7d", "build_date: '", "\n\t\x60",
            ":"⟩ json.language = .ok pair ∧
        (∀ half, pair.fieldTokens half = pair.spellings.names.entries) ∧
        Catalog.builtin.renderChecked (.standard .smart)
          ⟨"\"version\": \"1\\", "/* // # \x7b\x7bVersion\x7d\x7d", "build_date: '", "\n\t\x60",
            ":"⟩ json.language = .ok pair ∧
        Catalog.builtin.check (.standard .smart) json.language none pair.declaration
          pair.definition = .ok () := by
  have listed : json ∈ all := by simp [all]
  exact ⟨listed, render_consistent listed .smart _⟩

end Builtin

end Imprint
