import Imprint.Catalog.Rendering
import Imprint.Proofs.Catalog.History
import Imprint.Proofs.Rendering.Builtin

/-!
# Selections of built-in templates

A list of selectors stands for a set of built-in templates.  However the list is written, the same
pairs are rendered, each of them once; only their order follows the list.
-/

namespace Imprint

/-! ## Distinct pairs -/

theorem mem_of_mem_distinctPairs {pairs : List Pair} {pair : Pair}
    (listed : pair ∈ distinctPairs pairs) : pair ∈ pairs := by
  induction pairs with
  | nil => contradiction
  | cons first rest ih =>
      rcases List.mem_cons.mp listed with rfl | listed
      · exact List.mem_cons_self
      · exact List.mem_cons_of_mem _ (ih (List.mem_filter.mp listed).1)

/-- Where a language has one pair only, none is lost. -/
theorem mem_distinctPairs_iff {pairs : List Pair} {pair : Pair}
    (single : ∀ first ∈ pairs, ∀ second ∈ pairs,
      first.language = second.language → first = second) :
    pair ∈ distinctPairs pairs ↔ pair ∈ pairs := by
  constructor
  · exact mem_of_mem_distinctPairs
  · intro listed
    induction pairs with
    | nil => contradiction
    | cons first rest ih =>
        by_cases same : pair.language = first.language
        · rw [single pair listed first List.mem_cons_self same]
          exact List.mem_cons_self
        · have further : pair ∈ rest := by
            rcases List.mem_cons.mp listed with rfl | further
            · contradiction
            · exact further
          have kept := ih (fun one there two elsewhere => single one (List.mem_cons_of_mem _ there)
            two (List.mem_cons_of_mem _ elsewhere)) further
          refine List.mem_cons_of_mem _ (List.mem_filter.mpr ⟨kept, ?_⟩)
          simpa using same

theorem nodup_distinctPairs (pairs : List Pair) : (distinctPairs pairs).Nodup := by
  induction pairs with
  | nil => exact List.nodup_nil
  | cons first rest ih =>
      refine List.nodup_cons.mpr ⟨?_, ih.filter _⟩
      intro listed
      have different := (List.mem_filter.mp listed).2
      simp at different

/-! ## Names of built-in templates -/

namespace Builtin

variable {template : Template} {selector : String}

theorem namesStored : ∀ template ∈ all, template.NamesStored := by
  unfold Template.NamesStored
  decide +kernel

theorem eq_of_shared_language {first second : Template} (firstListed : first ∈ all)
    (secondListed : second ∈ all) (same : first.language = second.language) : first = second := by
  have distinct : (all.map Template.language).Nodup := by decide +kernel
  exact List.inj_on_of_nodup_map distinct firstListed secondListed same

/-- No two built-in templates share a name. -/
theorem eq_of_shared_name {first second : Template} (firstListed : first ∈ all)
    (secondListed : second ∈ all) {name : String} (named : name ∈ first.language :: first.aliases)
    (again : name ∈ second.language :: second.aliases) : first = second := by
  have distinct : ∀ first ∈ all, ∀ second ∈ all, ∀ name ∈ first.language :: first.aliases,
      name ∈ second.language :: second.aliases → first.language = second.language := by
    decide +kernel
  exact eq_of_shared_language firstListed secondListed
    (distinct first firstListed second secondListed name named again)

/-- Whether a selector names a built-in template. -/
def Names (selector : String) (template : Template) : Prop :=
  template ∈ all ∧ template.isNamed selector = true

/-- Whether one of some selectors names a built-in template. -/
def Selects (selectors : List String) (template : Template) : Prop :=
  ∃ selector ∈ selectors, Names selector template

theorem names_iff : Names selector template ↔
    template ∈ all ∧ Draft.languageId selector ∈ template.language :: template.aliases :=
  and_congr_right fun listed => Template.isNamed_iff (namesStored template listed) selector

/-- What is selected depends on the stored forms of the selectors only. -/
theorem selects_iff {selectors : List String} : Selects selectors template ↔
    template ∈ all ∧ ∃ name ∈ selectors.map Draft.languageId,
      name ∈ template.language :: template.aliases := by
  simp only [Selects, names_iff, List.mem_map, exists_exists_and_eq_and]
  constructor
  · rintro ⟨selector, given, listed, named⟩
    exact ⟨listed, selector, given, named⟩
  · rintro ⟨listed, selector, given, named⟩
    exact ⟨selector, given, listed, named⟩

/-- A selector that names a built-in template finds it. -/
theorem find_of_names (names : Names selector template) :
    Catalog.builtin.find selector = .ok template := by
  have stored : ∀ template ∈ Catalog.builtin.templates, template.NamesStored := namesStored
  rcases Catalog.exists_find_eq_ok stored names.1 names.2 with ⟨other, found⟩
  have otherNames : Names selector other := Catalog.isNamed_of_find_eq_ok stored found
  rcases names_iff.mp names with ⟨listed, named⟩
  rcases names_iff.mp otherNames with ⟨otherListed, otherNamed⟩
  rw [found, eq_of_shared_name otherListed listed otherNamed named]

/-! ## Rendered selections -/

/-- The pair of a template for a record under the standard registry. -/
def standardPair (descriptor : DescriptorName) (record : Record) (template : Template) : Pair :=
  template.pairOf (template.standardSpellings descriptor) record

variable {descriptor : DescriptorName} {record : Record} {selectors : List String}

theorem render_of_names (names : Names selector template) (descriptor : DescriptorName)
    (record : Record) :
    Catalog.builtin.render (.standard descriptor) record selector =
      .ok (standardPair descriptor record template) := by
  rw [Catalog.render, find_of_names names]
  exact template.render_eq_ok (spellingsFor_eq_ok names.1 descriptor) record

/-- The pair of a built-in template passes its own check. -/
theorem validate_standardPair (listed : template ∈ all) (descriptor : DescriptorName)
    (record : Record) : (standardPair descriptor record template).validate = .ok () :=
  Pair.validate_eq_ok fun half =>
    Template.fieldTokens_pairOf (namesOnce listed descriptor half) record

theorem renderChecked_of_names (names : Names selector template) (descriptor : DescriptorName)
    (record : Record) :
    Catalog.builtin.renderChecked (.standard descriptor) record selector =
      .ok (standardPair descriptor record template) := by
  simp only [Catalog.renderChecked, render_of_names names, bind, Except.bind,
    validate_standardPair names.1]
  rfl

/-- Selectors that name built-in templates are all rendered, whether the pairs are checked or
not. -/
theorem mapM_render {templates : List Template}
    (names : List.Forall₂ Names selectors templates) (checked : Bool) :
    (selectors.mapM fun selector =>
      if checked then Catalog.builtin.renderChecked (.standard descriptor) record selector
      else Catalog.builtin.render (.standard descriptor) record selector) =
        .ok (templates.map (standardPair descriptor record)) := by
  induction names with
  | nil => rfl
  | @cons selector template selectors templates names rest ih =>
      have rendered : (if checked then
          Catalog.builtin.renderChecked (.standard descriptor) record selector
          else Catalog.builtin.render (.standard descriptor) record selector) =
            .ok (standardPair descriptor record template) := by
        cases checked with
        | true => exact renderChecked_of_names names descriptor record
        | false => exact render_of_names names descriptor record
      rw [List.mapM_cons, rendered, ih]
      rfl

/-- Selectors that name built-in templates name them one by one. -/
theorem exists_forall₂_names (known : ∀ selector ∈ selectors, ∃ template, Names selector template) :
    ∃ templates, List.Forall₂ Names selectors templates ∧
      ∀ template, template ∈ templates ↔ Selects selectors template := by
  induction selectors with
  | nil => exact ⟨[], .nil, by simp [Selects]⟩
  | cons selector selectors ih =>
      rcases known selector List.mem_cons_self with ⟨template, names⟩
      rcases ih fun other there => known other (List.mem_cons_of_mem _ there)
        with ⟨templates, rest, listed_iff⟩
      refine ⟨template :: templates, .cons names rest, fun other => ?_⟩
      rw [List.mem_cons, listed_iff, Selects, Selects, List.exists_mem_cons_iff]
      apply or_congr_left
      constructor
      · rintro rfl
        exact names
      · intro otherNames
        have found := (find_of_names names).symm.trans (find_of_names otherNames)
        exact (Except.ok.inj found).symm

/-- What is rendered for some selectors is the pair of every template that they select, once. -/
theorem exists_renderAll (known : ∀ selector ∈ selectors, ∃ template, Names selector template)
    (descriptor : DescriptorName) (checked : Bool) (record : Record) :
    ∃ pairs, Catalog.builtin.renderAll (.standard descriptor) checked record selectors =
        .ok pairs ∧ pairs.Nodup ∧
      ∀ pair, pair ∈ pairs ↔ ∃ template, Selects selectors template ∧
        standardPair descriptor record template = pair := by
  rcases exists_forall₂_names known with ⟨templates, names, listed_iff⟩
  have single : ∀ first ∈ templates.map (standardPair descriptor record),
      ∀ second ∈ templates.map (standardPair descriptor record),
      first.language = second.language → first = second := by
    intro first firstRendered second secondRendered same
    rcases List.mem_map.mp firstRendered with ⟨one, oneThere, rfl⟩
    rcases List.mem_map.mp secondRendered with ⟨two, twoThere, rfl⟩
    rcases (listed_iff one).mp oneThere with ⟨-, -, oneListed, -⟩
    rcases (listed_iff two).mp twoThere with ⟨-, -, twoListed, -⟩
    rw [eq_of_shared_language oneListed twoListed same]
  refine ⟨_, ?_, nodup_distinctPairs (templates.map (standardPair descriptor record)), ?_⟩
  · rw [Catalog.renderAll, mapM_render names checked]
    rfl
  · intro pair
    rw [mem_distinctPairs_iff single, List.mem_map]
    simp only [listed_iff]

end Builtin

end Imprint
