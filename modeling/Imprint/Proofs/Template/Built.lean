import Imprint.Proofs.Naming.Spellings
import Imprint.Builtin
import Imprint.Pair

/-!
# What a built template satisfies

Building a draft checks its parts one after the other.  Here is what is known of a draft once all
of them have passed, and what follows for the template: its pinned names are identifiers, and the
standard registry spells it under either name of the descriptor.
-/

namespace Imprint

namespace Draft

variable {draft : Draft} {template : Template}

/-- What the parts of a draft are once a template has been built from it. -/
structure Builds (draft : Draft) (template : Template) : Prop where
  language : draft.checkLanguage = .ok template.language
  convention : draft.convention = some template.convention
  style : draft.style = some template.style
  files : draft.checkFiles template.language = .ok template.files
  skeletons : ∃ declaration definition, draft.declaration = some declaration ∧
    draft.definition = some definition ∧
    Skeleton.parse .declaration declaration = .ok template.declaration ∧
    Skeleton.parse .definition definition = .ok template.definition
  names : draft.checkOverrides template.language template.convention = .ok ()
  overrides : template.overrides = draft.overrides

theorem require_eq_ok_iff {language : String} {part : TemplatePart} {found : Option α}
    {value : α} : require language part found = .ok value ↔ found = some value := by
  cases found with
  | none => simp [require]
  | some other => simp [require]

theorem builds_of_build_eq_ok (built : draft.build = .ok template) : draft.Builds template := by
  simp only [build, bind_eq_ok_iff, require_eq_ok_iff] at built
  obtain ⟨language, named, convention, joined, style, escaped, files, placed, declaration,
    declared, declarationSkeleton, parsedDeclaration, definition, defined, definitionSkeleton,
    parsedDefinition, ⟨⟩, spelled, done⟩ := built
  cases done
  exact ⟨named, joined, escaped, placed,
    ⟨declaration, definition, declared, defined, parsedDeclaration, parsedDefinition⟩, spelled,
    rfl⟩

/-- Names that have been checked are identifiers, and no two fields share one, whichever name the
descriptor goes by. -/
theorem of_checkOverrides_eq_ok {language : String} {convention : Convention}
    (checked : draft.checkOverrides language convention = .ok ()) :
    (∀ field name, draft.overrides.get field = some name → isIdentifier name.toList = true) ∧
      ∀ descriptor, ∃ spellings,
        (Registry.standard descriptor).spellings language convention draft.overrides =
          .ok spellings := by
  rw [checkOverrides] at checked
  cases faulty : draft.invalidOverride? with
  | some fault =>
      rw [faulty] at checked
      contradiction
  | none =>
      rw [faulty] at checked
      simp only [bind_eq_ok_iff] at checked
      obtain ⟨smart, spelledSmart, tagOrBranch, spelledTagOrBranch, -⟩ := checked
      constructor
      · intro field name pinned
        rw [invalidOverride?, List.findSome?_eq_none_iff] at faulty
        have valid := faulty field field.mem_all
        rw [pinned] at valid
        simpa using valid
      · intro descriptor
        cases descriptor with
        | smart => exact ⟨smart, spelledSmart⟩
        | tagOrBranch => exact ⟨tagOrBranch, spelledTagOrBranch⟩

namespace Builds

theorem isIdentifier_override (builds : draft.Builds template) {field : Field} {name : String}
    (pinned : template.overrides.get field = some name) : isIdentifier name.toList = true := by
  rw [builds.overrides] at pinned
  exact (of_checkOverrides_eq_ok builds.names).1 field name pinned

end Builds

end Draft

/-! ## The names of a template -/

/-- The names of a template's fields under the standard registry. -/
def Template.standardSpellings (template : Template) (descriptor : DescriptorName) :
    Spellings where
  convention := template.convention
  names := PerField.ofFunction fun field =>
    (template.overrides.get field).getD ((standardNames descriptor template.convention).get field)

theorem pick_standard (template : Template) (descriptor : DescriptorName) (field : Field) :
    (Registry.standard descriptor).pick template.convention template.overrides field =
      .ok ((template.standardSpellings descriptor).names.get field) := by
  simp only [Registry.pick, Template.standardSpellings, PerField.get_ofFunction]
  cases pinned : template.overrides.get field with
  | none => exact spell_standard descriptor template.convention field
  | some name => rfl

/-- The standard registry has no other names for a template. -/
theorem eq_standardSpellings {template : Template} {descriptor : DescriptorName}
    {spellings : Spellings}
    (spelled : (Registry.standard descriptor).spellingsFor template = .ok spellings) :
    spellings = template.standardSpellings descriptor := by
  obtain ⟨joined, picked, -⟩ := Registry.of_spellings_eq_ok spelled
  have same : spellings.names = (template.standardSpellings descriptor).names :=
    PerField.ext_get fun field =>
      Except.ok.inj ((picked field).symm.trans (pick_standard template descriptor field))
  cases spellings
  cases joined
  cases same
  rfl

/-- A built template is spelled by the standard registry. -/
theorem Draft.Builds.spellingsFor_eq_ok {draft : Draft} {template : Template}
    (builds : draft.Builds template) (descriptor : DescriptorName) :
    (Registry.standard descriptor).spellingsFor template =
      .ok (template.standardSpellings descriptor) := by
  obtain ⟨spellings, spelled⟩ := (of_checkOverrides_eq_ok builds.names).2 descriptor
  rw [← builds.overrides] at spelled
  rw [← eq_standardSpellings spelled]
  exact spelled

/-- The standard names are identifiers. -/
theorem isIdentifier_standardNames (descriptor : DescriptorName) (convention : Convention)
    (field : Field) :
    isIdentifier ((standardNames descriptor convention).get field).toList = true := by
  cases convention <;> cases descriptor <;> cases field <;> decide +kernel

/-- Every name of a built template is an identifier. -/
theorem Draft.Builds.isIdentifier_get {draft : Draft} {template : Template}
    (builds : draft.Builds template) (descriptor : DescriptorName) (field : Field) :
    isIdentifier ((template.standardSpellings descriptor).get field).toList = true := by
  rw [Spellings.get, Template.standardSpellings, PerField.get_ofFunction]
  cases pinned : template.overrides.get field with
  | none => exact isIdentifier_standardNames descriptor template.convention field
  | some name => exact builds.isIdentifier_override pinned

/-! ## A plain template -/

/-- A draft whose texts list the names and bind them to values, with nothing but brackets around
them. -/
def plainDraft (convention : Convention) (files : Halves String) (overrides : Overrides) :
    Draft where
  language := some "plain"
  displayName := none
  aliases := []
  description := none
  convention := some convention
  style := some .c
  files := some files
  overrides := overrides
  declaration := some
    ("[\x7b\x7bVersion\x7d\x7d \x7b\x7bCommitHash\x7d\x7d \x7b\x7bCommitDate\x7d\x7d " ++
     "\x7b\x7bCommitDescriptor\x7d\x7d \x7b\x7bBuildDate\x7d\x7d]")
  definition := some
    ("[\x7b\x7bVersion.name\x7d\x7d=\"\x7b\x7bVersion\x7d\x7d\" " ++
     "\x7b\x7bCommitHash.name\x7d\x7d=\"\x7b\x7bCommitHash\x7d\x7d\" " ++
     "\x7b\x7bCommitDate.name\x7d\x7d=\"\x7b\x7bCommitDate\x7d\x7d\" " ++
     "\x7b\x7bCommitDescriptor.name\x7d\x7d=\"\x7b\x7bCommitDescriptor\x7d\x7d\" " ++
     "\x7b\x7bBuildDate.name\x7d\x7d=\"\x7b\x7bBuildDate\x7d\x7d\"]")

/-- The template of a plain draft. -/
def plainTemplate (convention : Convention) (files : Halves String) (overrides : Overrides) :
    Template where
  language := "plain"
  displayName := "plain"
  aliases := []
  description := ""
  convention := convention
  style := .c
  files := files
  overrides := overrides
  declaration := .listing "[" " " "]"
  definition := .bindings "[" "=\"" "\" " "\"]"

/-- A plain draft is built if its files and its pinned names pass. -/
theorem build_plainDraft {convention : Convention} {files : Halves String}
    {overrides : Overrides}
    (placed : (plainDraft convention files overrides).checkFiles "plain" = .ok files)
    (named : (plainDraft convention files overrides).checkOverrides "plain" convention = .ok ()) :
    (plainDraft convention files overrides).build =
      .ok (plainTemplate convention files overrides) := by
  have language : (plainDraft convention files overrides).checkLanguage = .ok "plain" := by rfl
  simp only [Draft.build, bind_eq_ok_iff]
  refine ⟨"plain", language, convention, rfl, .c, rfl, files, placed, _, rfl, .listing "[" " " "]",
    ?_, _, rfl, .bindings "[" "=\"" "\" " "\"]", ?_, (), named, rfl⟩
  all_goals
    rw [Skeleton.parse]
    simp only [String.toList_append]
    repeat rw [String.toList_ofList]
    decide +kernel

end Imprint
