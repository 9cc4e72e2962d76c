import Imprint.Catalog
import Imprint.Proofs.Consistency.Validation
import Imprint.Proofs.Rendering.Consistency
import Imprint.Proofs.Template.Built

/-!
# Built templates are usable

Building a draft anticipates every later use of the template.  Whatever name the descriptor goes
by, the template renders every record, with five names that can be told apart, and two texts can
be checked against it under every convention.  A check may find the texts inconsistent, but it
never fails for want of names.
-/

namespace Imprint

/-! ## What a check can report -/

namespace Pair

/-- A field that fails its check is reported as inconsistent. -/
theorem exists_inconsistent_of_validateField {pair : Pair} {field : Field} {error : Error}
    (failed : pair.validateField field = .error error) :
    ∃ declared defined, error = .inconsistent field declared defined (pair.spellings.get field) := by
  simp only [validateField] at failed
  split at failed
  · contradiction
  · cases failed
    exact ⟨_, _, rfl⟩

/-- A pair passes its check or is inconsistent in one of its fields. -/
theorem validate_eq_ok_or_inconsistent (pair : Pair) :
    pair.validate = .ok () ∨ ∃ field declared defined,
      pair.validate = .error (.inconsistent field declared defined (pair.spellings.get field)) := by
  cases checked : pair.validate with
  | ok => exact .inl rfl
  | error error =>
      obtain ⟨_, field, _, _, _, stops⟩ := exists_of_forM_eq_error checked
      obtain ⟨declared, defined, rfl⟩ := exists_inconsistent_of_validateField stops
      exact .inr ⟨field, declared, defined, rfl⟩

end Pair

/-! ## Built templates -/

/-- The names of a template are its pinned names and, for the other fields, the spellings of its
convention. -/
theorem Template.pinned_or_spelled (template : Template) (descriptor : DescriptorName)
    (field : Field) :
    (∀ name, template.overrides.get field = some name →
      (template.standardSpellings descriptor).get field = name) ∧
    (template.overrides.get field = none →
      (Registry.standard descriptor).spell field template.convention =
        .ok ((template.standardSpellings descriptor).get field)) := by
  have picked := pick_standard template descriptor field
  rw [Registry.pick] at picked
  constructor
  · intro name pinned
    rw [pinned] at picked
    exact (Except.ok.inj picked).symm
  · intro unpinned
    rw [unpinned] at picked
    exact picked

/-- Whatever convention a check asks for, there are names to check against: the template's own for
its own convention, the standard ones for any other. -/
theorem Draft.Builds.exists_expectedSpellings {draft : Draft} {template : Template}
    (builds : draft.Builds template) (descriptor : DescriptorName)
    (convention : Option Convention) :
    ∃ expected,
      Catalog.expectedSpellings (.standard descriptor) template convention = .ok expected := by
  have own := builds.spellingsFor_eq_ok descriptor
  cases convention with
  | none => exact ⟨_, own⟩
  | some other =>
      rw [Catalog.expectedSpellings]
      by_cases same : other = template.convention
      · rw [if_pos same]
        exact ⟨_, own⟩
      · rw [if_neg same]
        exact ⟨_, spellings_none_standard descriptor template.language other⟩

/-- A template that has been built keeps the names that its draft pins, and it can be used: every
record is rendered, with five different names, and every check of two texts passes or finds a
field inconsistent. -/
theorem render_and_check_of_build {draft : Draft} {template : Template}
    (built : draft.build = .ok template) (descriptor : DescriptorName) :
    template.overrides = draft.overrides ∧
      (∀ record, ∃ pair,
        template.render (.standard descriptor) record = .ok pair ∧
        pair.spellings.Distinct ∧
        ∀ field,
          (∀ name, template.overrides.get field = some name →
            pair.spellings.get field = name) ∧
          (template.overrides.get field = none →
            (Registry.standard descriptor).spell field template.convention =
              .ok (pair.spellings.get field))) ∧
      ∀ (catalog : Catalog) (selector : String), catalog.find selector = .ok template →
        ∀ convention declaration definition,
          catalog.check (.standard descriptor) selector convention declaration definition =
              .ok () ∨
            ∃ field declared defined expected,
              catalog.check (.standard descriptor) selector convention declaration definition =
                .error (.inconsistent field declared defined expected) := by
  have builds := Draft.builds_of_build_eq_ok built
  have spelled := builds.spellingsFor_eq_ok descriptor
  refine ⟨builds.overrides, ?_, ?_⟩
  · intro record
    refine ⟨_, Template.render_eq_ok spelled record, ?_, ?_⟩
    · exact (Registry.of_spellings_eq_ok spelled).2.2
    · exact template.pinned_or_spelled descriptor
  · intro catalog selector found convention declaration definition
    obtain ⟨expected, named⟩ := builds.exists_expectedSpellings descriptor convention
    have checked : catalog.check (.standard descriptor) selector convention declaration
        definition = (Pair.ofTexts template expected declaration definition).validate := by
      simp only [Catalog.check, found, named, bind, Except.bind]
    rw [checked]
    rcases Pair.validate_eq_ok_or_inconsistent
      (Pair.ofTexts template expected declaration definition) with passes |
        ⟨field, declared, defined, fails⟩
    · exact .inl passes
    · exact .inr ⟨field, declared, defined, _, fails⟩

/-- A template whose name for the version is what another convention calls the descriptor. -/
def borrowingTemplate : Template :=
  plainTemplate .snake ⟨"plain.h", "plain.c"⟩ (Overrides.none.set .version (some "commitSmart"))

/-- The borrowed name is rendered.  It does not count under the convention that it is borrowed
from, where the version is looked for under its own name. -/
theorem render_and_check_of_build_borrowingTemplate :
    (plainDraft .snake borrowingTemplate.files borrowingTemplate.overrides).build =
        .ok borrowingTemplate ∧
      (Catalog.empty.insert borrowingTemplate).find "Plain" = .ok borrowingTemplate ∧
      (∃ pair, borrowingTemplate.render (.standard .smart) Record.empty = .ok pair ∧
        pair.spellings.Distinct ∧
        pair.spellings.get .version = "commitSmart" ∧
        (Registry.standard .smart).spell .commitDescriptor .snake =
          .ok (pair.spellings.get .commitDescriptor)) ∧
      ((Catalog.empty.insert borrowingTemplate).check (.standard .smart) "Plain" (some .camel)
            "commitSmart" "commitSmart" = .ok () ∨
        ∃ field declared defined expected,
          (Catalog.empty.insert borrowingTemplate).check (.standard .smart) "Plain" (some .camel)
              "commitSmart" "commitSmart" =
            .error (.inconsistent field declared defined expected)) := by
  have built : (plainDraft .snake borrowingTemplate.files borrowingTemplate.overrides).build =
      .ok borrowingTemplate := build_plainDraft (by decide) (by decide)
  have found : (Catalog.empty.insert borrowingTemplate).find "Plain" = .ok borrowingTemplate := by
    decide
  obtain ⟨-, renders, checks⟩ := render_and_check_of_build built .smart
  obtain ⟨pair, rendered, distinct, names⟩ := renders Record.empty
  refine ⟨built, found, ⟨pair, rendered, distinct, (names .version).1 _ rfl,
    (names .commitDescriptor).2 rfl⟩, checks _ _ found (some .camel) "commitSmart" "commitSmart"⟩

end Imprint
