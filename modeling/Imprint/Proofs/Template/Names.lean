import Imprint.Proofs.Rendering.Consistency
import Imprint.Proofs.Template.Built
import Imprint.Proofs.Token.Identifier

/-!
# Names that are read back as one identifier

The names of a built template are identifiers in some language.  The identifiers of a text depend
on the naming convention, and not every name is one of them: a name is read in one piece exactly
if each of its hyphens joins.  This holds of the standard names, but not of every pinned name.
-/

namespace Imprint

/-- The standard names have hyphens only where these join. -/
theorem hyphensJoin_standardNames (descriptor : DescriptorName) (convention : Convention)
    (field : Field) :
    HyphensJoin convention.isHyphenated
      ((standardNames descriptor convention).get field).toList := by
  rw [← LiteralStyle.c.tokens_eq_singleton_iff
    (isIdentifier_standardNames descriptor convention field)]
  cases convention <;> cases descriptor <;> cases field <;> decide +kernel

/-- Every name of a built template is read in one piece exactly if its hyphens join, and the
hyphens of a name that is not pinned do. -/
theorem tokens_get_eq_singleton_iff {draft : Draft} {template : Template}
    (built : draft.build = .ok template) (descriptor : DescriptorName) :
    (Registry.standard descriptor).spellingsFor template =
        .ok (template.standardSpellings descriptor) ∧
      ∀ field name, name = ((template.standardSpellings descriptor).get field).toList →
        (tokens template.style.lexicon template.convention.isHyphenated name = [name] ↔
          HyphensJoin template.convention.isHyphenated name) ∧
        (template.overrides.get field = none →
          HyphensJoin template.convention.isHyphenated name) := by
  have builds := Draft.builds_of_build_eq_ok built
  refine ⟨builds.spellingsFor_eq_ok descriptor, ?_⟩
  rintro field _ rfl
  refine ⟨template.style.tokens_eq_singleton_iff (builds.isIdentifier_get descriptor field), ?_⟩
  intro unpinned
  rw [Spellings.get, Template.standardSpellings, PerField.get_ofFunction, unpinned]
  exact hyphensJoin_standardNames descriptor template.convention field

/-- A template that pins a name with a hyphen where identifiers have none. -/
def hyphenatedTemplate : Template :=
  plainTemplate .snake ⟨"plain.h", "plain.c"⟩
    (Overrides.none.set .commitHash (some "commit-hash"))

theorem build_hyphenatedTemplate :
    (plainDraft .snake hyphenatedTemplate.files hyphenatedTemplate.overrides).build =
      .ok hyphenatedTemplate :=
  build_plainDraft (by decide +kernel) (by decide +kernel)

/-- For the pinned name this is a matter of its hyphen, the other names are not pinned. -/
theorem tokens_get_eq_singleton_iff_hyphenatedTemplate :
    (plainDraft .snake hyphenatedTemplate.files hyphenatedTemplate.overrides).build =
        .ok hyphenatedTemplate ∧
      (Registry.standard .smart).spellingsFor hyphenatedTemplate =
        .ok (hyphenatedTemplate.standardSpellings .smart) ∧
      (tokens LiteralStyle.c.lexicon false "commit-hash".toList = ["commit-hash".toList] ↔
        HyphensJoin false "commit-hash".toList) ∧
      HyphensJoin false "commit_date".toList := by
  obtain ⟨spelled, names⟩ := tokens_get_eq_singleton_iff build_hyphenatedTemplate .smart
  exact ⟨build_hyphenatedTemplate, spelled, (names .commitHash _ rfl).1,
    (names .commitDate _ rfl).2 rfl⟩

/-- A name of a built template is not read in one piece, and the pair that the template renders
fails its own check. -/
theorem tokens_hyphenatedTemplate :
    (plainDraft .snake hyphenatedTemplate.files hyphenatedTemplate.overrides).build =
        .ok hyphenatedTemplate ∧
      ∃ pair, hyphenatedTemplate.render (.standard .smart) Record.empty = .ok pair ∧
        pair.spellings.get .commitHash = "commit-hash" ∧
        tokens hyphenatedTemplate.style.lexicon hyphenatedTemplate.convention.isHyphenated
            (pair.spellings.get .commitHash).toList ≠
          [(pair.spellings.get .commitHash).toList] ∧
        pair.validate ≠ .ok () := by
  have spelled :=
    (Draft.builds_of_build_eq_ok build_hyphenatedTemplate).spellingsFor_eq_ok .smart
  refine ⟨build_hyphenatedTemplate, _, Template.render_eq_ok spelled Record.empty, rfl, ?_, ?_⟩
  · decide +kernel
  · decide +kernel

end Imprint
