import Imprint.Catalog
import Imprint.Proofs.Template.Selector
import Mathlib.Data.List.Dedup

/-!
# What a history of insertions leaves

A catalog is filled by inserting templates one after the other.  Whatever the history is, the
catalog is the map that it describes: it holds the last template of every language id, in
ascending order of the ids, and a selector finds by the id first and by the least id among the
aliases otherwise.
-/

namespace Imprint

namespace Catalog

/-- The catalog after a history of insertions into the empty one. -/
def ofHistory (history : List Template) : Catalog := empty.insertAll history

/-- The template with a language id that a history has inserted last. -/
def current? (history : List Template) (language : String) : Option Template :=
  history.reverse.find? (·.language == language)

/-- What a history answers to a selector: the current template with the id, failing that the one
with the least id among those with the alias, failing that a refusal that lists the current ids
in ascending order. -/
inductive Answers (history : List Template) (selector : String) : Except Error Template → Prop
  | byId {template : Template}
      (found : current? history (Draft.languageId selector) = some template) :
      Answers history selector (.ok template)
  | byAlias {template : Template}
      (noId : current? history (Draft.languageId selector) = none)
      (current : current? history template.language = some template)
      (named : Draft.languageId selector ∈ template.aliases)
      (least : ∀ other, current? history other.language = some other →
        Draft.languageId selector ∈ other.aliases → template.language ≤ other.language) :
      Answers history selector (.ok template)
  | unknown {languages : List String}
      (noId : current? history (Draft.languageId selector) = none)
      (noAlias : ∀ other, current? history other.language = some other →
        Draft.languageId selector ∉ other.aliases)
      (ascending : languages.Pairwise (· < ·))
      (complete : ∀ language, language ∈ languages ↔ (current? history language).isSome) :
      Answers history selector (.error (.unsupportedLanguage selector languages))

/-! ## Histories -/

variable {history : List Template} {template : Template} {language : String}

theorem ofHistory_append (history : List Template) (template : Template) :
    ofHistory (history ++ [template]) = (ofHistory history).insert template := by
  rw [ofHistory, insertAll, List.foldl_append]
  rfl

theorem current?_append (history : List Template) (template : Template) (language : String) :
    current? (history ++ [template]) language =
      if template.language = language then some template else current? history language := by
  rw [current?, List.reverse_append, List.reverse_singleton, List.singleton_append]
  by_cases same : template.language = language
  · rw [if_pos same, List.find?_cons_of_pos (by simpa using same)]
  · rw [if_neg same, List.find?_cons_of_neg (by simpa using same), current?]

theorem language_of_current? (current : current? history language = some template) :
    template.language = language := by
  simpa using List.find?_some current

theorem mem_of_current? (current : current? history language = some template) :
    template ∈ history :=
  List.mem_reverse.mp (List.mem_of_find?_eq_some current)

theorem isSome_current?_iff :
    (current? history language).isSome ↔ language ∈ history.map Template.language := by
  simp [current?, List.find?_isSome]

/-! ## Insertion into a sorted list -/

/-- Templates in ascending order of their language ids. -/
def Ascending (templates : List Template) : Prop :=
  templates.Pairwise fun first second => first.language < second.language

variable {first : Template} {rest templates : List Template}

theorem insertSorted_of_eq (same : template.language = first.language) :
    insertSorted template (first :: rest) = (some first, template :: rest) := by
  rw [insertSorted, if_pos same]

theorem insertSorted_of_lt (before : template.language < first.language) :
    insertSorted template (first :: rest) = (none, template :: first :: rest) := by
  rw [insertSorted, if_neg (String.ne_of_lt before), if_pos before]

theorem insertSorted_of_gt (behind : first.language < template.language) :
    insertSorted template (first :: rest) =
      ((insertSorted template rest).1, first :: (insertSorted template rest).2) := by
  rw [insertSorted, if_neg (String.ne_of_lt behind).symm, if_neg (String.lt_asymm behind)]

theorem mem_insertSorted {other : Template}
    (listed : other ∈ (insertSorted template templates).2) :
    other = template ∨ other ∈ templates := by
  induction templates with
  | nil => simpa [insertSorted] using listed
  | cons first rest ih =>
      rcases Std.lt_trichotomy template.language first.language with before | same | behind
      · simpa [insertSorted_of_lt before] using listed
      · rw [insertSorted_of_eq same, List.mem_cons] at listed
        exact listed.imp_right (List.mem_cons_of_mem first)
      · rw [insertSorted_of_gt behind, List.mem_cons] at listed
        rcases listed with rfl | listed
        · exact .inr List.mem_cons_self
        · exact (ih listed).imp_right (List.mem_cons_of_mem first)

theorem ascending_insertSorted (ascending : Ascending templates) (template : Template) :
    Ascending (insertSorted template templates).2 := by
  induction templates with
  | nil => exact List.pairwise_singleton _ template
  | cons first rest ih =>
      rcases List.pairwise_cons.mp ascending with ⟨least, ascendingRest⟩
      rcases Std.lt_trichotomy template.language first.language with before | same | behind
      · rw [insertSorted_of_lt before]
        refine List.pairwise_cons.mpr ⟨?_, ascending⟩
        intro other listed
        rcases List.mem_cons.mp listed with rfl | listed
        · exact before
        · exact String.lt_trans before (least other listed)
      · rw [insertSorted_of_eq same]
        refine List.pairwise_cons.mpr ⟨?_, ascendingRest⟩
        intro other listed
        rw [same]
        exact least other listed
      · rw [insertSorted_of_gt behind]
        refine List.pairwise_cons.mpr ⟨?_, ih ascendingRest⟩
        intro other listed
        rcases mem_insertSorted listed with rfl | listed
        · exact behind
        · exact least other listed

/-- Looking up an id after an insertion. -/
theorem find?_insertSorted (template : Template) (templates : List Template) (language : String) :
    (insertSorted template templates).2.find? (·.language == language) =
      if template.language = language then some template
      else templates.find? (·.language == language) := by
  have atHead : ∀ rest : List Template, (template :: rest).find? (·.language == language) =
      if template.language = language then some template
      else rest.find? (·.language == language) := by
    intro rest
    by_cases wanted : template.language = language
    · rw [if_pos wanted, List.find?_cons_of_pos (by simpa using wanted)]
    · rw [if_neg wanted, List.find?_cons_of_neg (by simpa using wanted)]
  induction templates with
  | nil => exact atHead []
  | cons first rest ih =>
      rcases Std.lt_trichotomy template.language first.language with before | same | behind
      · rw [insertSorted_of_lt before]
        exact atHead (first :: rest)
      · rw [insertSorted_of_eq same, atHead]
        by_cases wanted : template.language = language
        · rw [if_pos wanted, if_pos wanted]
        · rw [if_neg wanted, if_neg wanted,
            List.find?_cons_of_neg (by simpa [← same] using wanted)]
      · rw [insertSorted_of_gt behind]
        by_cases wanted : first.language = language
        · have other : template.language ≠ language := by
            intro same
            rw [same, wanted] at behind
            exact String.lt_irrefl language behind
          rw [if_neg other, List.find?_cons_of_pos (by simpa using wanted),
            List.find?_cons_of_pos (by simpa using wanted)]
        · rw [List.find?_cons_of_neg (by simpa using wanted), ih,
            List.find?_cons_of_neg (by simpa using wanted)]

/-- An insertion into a sorted list tells which template with the same id it replaces. -/
theorem fst_insertSorted (ascending : Ascending templates) (template : Template) :
    (insertSorted template templates).1 = templates.find? (·.language == template.language) := by
  induction templates with
  | nil => rfl
  | cons first rest ih =>
      rcases List.pairwise_cons.mp ascending with ⟨least, ascendingRest⟩
      rcases Std.lt_trichotomy template.language first.language with before | same | behind
      · rw [insertSorted_of_lt before]
        refine (List.find?_eq_none.mpr ?_).symm
        intro other listed
        rw [beq_iff_eq]
        rcases List.mem_cons.mp listed with rfl | listed
        · exact (String.ne_of_lt before).symm
        · exact (String.ne_of_lt (String.lt_trans before (least other listed))).symm
      · rw [insertSorted_of_eq same, List.find?_cons_of_pos (by simpa using same.symm)]
      · have other : first.language ≠ template.language := String.ne_of_lt behind
        rw [insertSorted_of_gt behind, List.find?_cons_of_neg (by simpa using other)]
        exact ih ascendingRest

/-- In a sorted list every template is found by its id. -/
theorem find?_language (ascending : Ascending templates) (listed : template ∈ templates) :
    templates.find? (·.language == template.language) = some template := by
  induction templates with
  | nil => contradiction
  | cons first rest ih =>
      rcases List.pairwise_cons.mp ascending with ⟨least, ascendingRest⟩
      rcases List.mem_cons.mp listed with rfl | listed
      · exact List.find?_cons_of_pos (by simp)
      · have other : first.language ≠ template.language :=
          String.ne_of_lt (least template listed)
        rw [List.find?_cons_of_neg (by simpa using other)]
        exact ih ascendingRest listed

/-- In a sorted list the template with the least id is found first. -/
theorem language_le_of_find? {test : Template → Bool} {other : Template}
    (ascending : Ascending templates) (found : templates.find? test = some template)
    (listed : other ∈ templates) (passes : test other = true) :
    template.language ≤ other.language := by
  induction templates with
  | nil => contradiction
  | cons first rest ih =>
      rcases List.pairwise_cons.mp ascending with ⟨least, ascendingRest⟩
      by_cases chosen : test first = true
      · rw [List.find?_cons_of_pos chosen] at found
        cases found
        rcases List.mem_cons.mp listed with rfl | listed
        · exact String.le_refl _
        · exact String.not_lt.mp (String.lt_asymm (least other listed))
      · rw [List.find?_cons_of_neg chosen] at found
        rcases List.mem_cons.mp listed with rfl | listed
        · contradiction
        · exact ih ascendingRest found listed

/-! ## The catalog after a history -/

/-- Every insertion returns the template that was current until then. -/
theorem exchange_eq (catalog : Catalog) (template : Template) :
    catalog.exchange template =
      ((insertSorted template catalog.templates).1, catalog.insert template) := rfl

theorem templates_insert (catalog : Catalog) (template : Template) :
    (catalog.insert template).templates = (insertSorted template catalog.templates).2 := rfl

theorem ascending_ofHistory (history : List Template) :
    Ascending (ofHistory history).templates := by
  induction history using List.reverseRecOn with
  | nil => exact List.Pairwise.nil
  | append_singleton history template ih =>
      rw [ofHistory_append, templates_insert]
      exact ascending_insertSorted ih template

/-- The catalog finds by an id what the history has inserted last with it. -/
theorem lookup?_ofHistory (history : List Template) (language : String) :
    (ofHistory history).lookup? language = current? history language := by
  induction history using List.reverseRecOn with
  | nil => rfl
  | append_singleton history template ih =>
      rw [ofHistory_append, current?_append, ← ih]
      exact find?_insertSorted template (ofHistory history).templates language

theorem mem_ofHistory_iff :
    template ∈ (ofHistory history).templates ↔
      current? history template.language = some template := by
  rw [← lookup?_ofHistory]
  constructor
  · exact find?_language (ascending_ofHistory history)
  · exact List.mem_of_find?_eq_some

theorem exchange_ofHistory (history : List Template) (template : Template) :
    (ofHistory history).exchange template =
      (current? history template.language, ofHistory (history ++ [template])) := by
  rw [exchange_eq, fst_insertSorted (ascending_ofHistory history), ofHistory_append,
    ← lookup?_ofHistory]
  rfl

theorem mem_languages_ofHistory_iff :
    language ∈ (ofHistory history).languages ↔ (current? history language).isSome := by
  rw [languages, List.mem_map]
  constructor
  · rintro ⟨template, listed, rfl⟩
    rw [mem_ofHistory_iff.mp listed]
    rfl
  · intro found
    rcases Option.isSome_iff_exists.mp found with ⟨template, current⟩
    have same := language_of_current? current
    refine ⟨template, mem_ofHistory_iff.mpr ?_, same⟩
    rw [same, current]

theorem ascending_languages_ofHistory (history : List Template) :
    (ofHistory history).languages.Pairwise (· < ·) :=
  List.pairwise_map.mpr (ascending_ofHistory history)

/-- The catalog holds as many templates as the history has different ids. -/
theorem size_ofHistory (history : List Template) :
    (ofHistory history).size = (history.map Template.language).dedup.length := by
  have different : (ofHistory history).languages.Nodup :=
    (ascending_languages_ofHistory history).imp String.ne_of_lt
  have shuffled : (ofHistory history).languages.Perm (history.map Template.language).dedup := by
    rw [List.perm_ext_iff_of_nodup different (List.nodup_dedup _)]
    intro language
    rw [List.mem_dedup, mem_languages_ofHistory_iff, isSome_current?_iff]
  rw [← shuffled.length_eq, languages, List.length_map, size]

/-! ## Selectors -/

variable {selector : String}

/-- What is found is in the catalog, and the selector names it. -/
theorem isNamed_of_find_eq_ok {catalog : Catalog}
    (stored : ∀ template ∈ catalog.templates, template.NamesStored)
    (found : catalog.find selector = .ok template) :
    template ∈ catalog.templates ∧ template.isNamed selector = true := by
  rw [find] at found
  split at found
  case h_1 other chosen =>
    cases found
    rcases Option.or_eq_some_iff.mp chosen with byId | ⟨-, byName⟩
    · have listed := List.mem_of_find?_eq_some byId
      have same := List.find?_some byId
      rw [beq_iff_eq] at same
      refine ⟨listed, (Template.isNamed_iff (stored template listed) selector).mpr ?_⟩
      rw [← same]
      exact List.mem_cons_self
    · have listed := List.mem_of_find?_eq_some byName
      have named := List.find?_some byName
      rw [Template.isNamed_iff (stored template listed), Draft.languageId_languageId] at named
      exact ⟨listed, (Template.isNamed_iff (stored template listed) selector).mpr named⟩
  case h_2 => cases found

/-- A selector that names a template of the catalog finds one. -/
theorem exists_find_eq_ok {catalog : Catalog}
    (stored : ∀ template ∈ catalog.templates, template.NamesStored)
    (listed : template ∈ catalog.templates) (named : template.isNamed selector = true) :
    ∃ other, catalog.find selector = .ok other := by
  have again : template.isNamed (Draft.languageId selector) = true := by
    rw [Template.isNamed_iff (stored template listed)] at named ⊢
    rwa [Draft.languageId_languageId]
  have scanned : (catalog.templates.find? (·.isNamed (Draft.languageId selector))).isSome :=
    List.find?_isSome.mpr ⟨template, listed, again⟩
  rcases Option.isSome_iff_exists.mp scanned with ⟨other, scanned⟩
  rw [find, scanned]
  cases catalog.lookup? (Draft.languageId selector) with
  | none => exact ⟨other, rfl⟩
  | some byId => exact ⟨byId, rfl⟩

/-- A history answers to a selector in one way only. -/
theorem Answers.unique {first second : Except Error Template}
    (answer : Answers history selector first) (other : Answers history selector second) :
    first = second := by
  cases answer with
  | byId found =>
      cases other with
      | byId again => rw [Option.some.inj (found.symm.trans again)]
      | byAlias noId => rw [noId] at found; contradiction
      | unknown noId => rw [noId] at found; contradiction
  | byAlias noId current named least =>
      cases other with
      | byId found => rw [noId] at found; contradiction
      | byAlias _ current' named' least' =>
          have same := String.le_antisymm (least _ current' named') (least' _ current named)
          rw [same] at current
          rw [Option.some.inj (current.symm.trans current')]
      | unknown _ noAlias => exact absurd named (noAlias _ current)
  | unknown noId noAlias ascending complete =>
      cases other with
      | byId found => rw [noId] at found; contradiction
      | byAlias _ current named => exact absurd named (noAlias _ current)
      | unknown _ _ ascending' complete' =>
          have shuffled := (List.perm_ext_iff_of_nodup (ascending.imp String.ne_of_lt)
            (ascending'.imp String.ne_of_lt)).mpr fun language =>
              (complete language).trans (complete' language).symm
          have same := shuffled.eq_of_pairwise
            (fun _ _ _ _ before behind => absurd behind (String.lt_asymm before))
            ascending ascending'
          rw [same]

/-- A catalog holds templates of its history only. -/
theorem stored_ofHistory (stored : ∀ template ∈ history, template.NamesStored) :
    ∀ template ∈ (ofHistory history).templates, template.NamesStored :=
  fun template listed => stored template (mem_of_current? (mem_ofHistory_iff.mp listed))

/-- What the catalog finds is what the history answers. -/
theorem answers_find (stored : ∀ template ∈ history, template.NamesStored) (selector : String) :
    Answers history selector ((ofHistory history).find selector) := by
  rw [find, lookup?_ofHistory]
  cases found : current? history (Draft.languageId selector) with
  | some template => exact .byId found
  | none =>
      -- No template has the selector as its id, so a template that it names has it as an alias.
      have named_iff : ∀ {template}, template ∈ (ofHistory history).templates →
          (template.isNamed (Draft.languageId selector) = true ↔
            Draft.languageId selector ∈ template.aliases) := by
        intro template listed
        rw [Template.isNamed_iff (stored_ofHistory stored template listed),
          Draft.languageId_languageId, List.mem_cons]
        apply or_iff_right
        intro same
        rw [same, mem_ofHistory_iff.mp listed] at found
        contradiction
      rw [Option.none_or]
      cases scanned :
          (ofHistory history).templates.find? (·.isNamed (Draft.languageId selector)) with
      | some template =>
          have listed := List.mem_of_find?_eq_some scanned
          have chosen := List.find?_some scanned
          refine .byAlias found (mem_ofHistory_iff.mp listed) ((named_iff listed).mp chosen) ?_
          intro other current named
          have otherListed := mem_ofHistory_iff.mpr current
          exact language_le_of_find? (ascending_ofHistory history) scanned otherListed
            ((named_iff otherListed).mpr named)
      | none =>
          refine .unknown found ?_ (ascending_languages_ofHistory history) fun language =>
            mem_languages_ofHistory_iff
          intro other current named
          have listed := mem_ofHistory_iff.mpr current
          exact List.find?_eq_none.mp scanned other listed ((named_iff listed).mpr named)

theorem find_eq_iff (stored : ∀ template ∈ history, template.NamesStored)
    {answer : Except Error Template} :
    (ofHistory history).find selector = answer ↔ Answers history selector answer := by
  constructor
  · rintro rfl
    exact answers_find stored selector
  · exact (answers_find stored selector).unique

/-- A selector finds a template exactly if it names a current one. -/
theorem exists_find_eq_ok_iff (stored : ∀ template ∈ history, template.NamesStored) :
    (∃ template, (ofHistory history).find selector = .ok template) ↔
      ∃ template, current? history template.language = some template ∧
        template.isNamed selector = true := by
  have storedThere := stored_ofHistory stored
  constructor
  · rintro ⟨template, found⟩
    rcases isNamed_of_find_eq_ok storedThere found with ⟨listed, named⟩
    exact ⟨template, mem_ofHistory_iff.mp listed, named⟩
  · rintro ⟨template, current, named⟩
    exact exists_find_eq_ok storedThere (mem_ofHistory_iff.mpr current) named

/-- A current template is found by its id, whatever the other templates are named. -/
theorem find_language (stored : ∀ template ∈ history, template.NamesStored)
    (current : current? history template.language = some template) :
    (ofHistory history).find template.language = .ok template := by
  rw [find_eq_iff stored]
  apply Answers.byId
  rw [(stored _ (mem_of_current? current)).language, current]

/-- Alone in a catalog, a built template is found by all the aliases that its draft gives it. -/
theorem find_alias_of_alone (stored : ∀ template ∈ history, template.NamesStored) {draft : Draft}
    (built : draft.build = .ok template) (alone : (ofHistory history).templates = [template])
    {name : String} (given : name ∈ draft.aliases) (ink : Text.isBlankText name = false)
    (same : Draft.languageId selector = Draft.languageId name) :
    (ofHistory history).find selector = .ok template := by
  have named : template.isNamed selector = true := by
    rw [Template.isNamed_iff (Draft.namesStored_of_build_eq_ok built), same]
    exact List.mem_cons_of_mem _ (Draft.languageId_mem_aliases built given ink)
  have listed : template ∈ (ofHistory history).templates := by simp [alone]
  rcases (exists_find_eq_ok_iff stored).mpr ⟨template, mem_ofHistory_iff.mp listed, named⟩
    with ⟨other, found⟩
  have only := (isNamed_of_find_eq_ok (stored_ofHistory stored) found).1
  rw [alone, List.mem_singleton] at only
  rw [found, only]

/-! ## The catalog is a map -/

/-- After any history of insertions of built templates the catalog is the map that the history
describes. -/
theorem ofHistory_refines (history : List Template)
    (built : ∀ template ∈ history, ∃ draft : Draft, draft.build = .ok template) :
    -- It holds the last template of every id, in ascending order of the ids.
    (ofHistory history).templates.Pairwise (fun first second => first.language < second.language) ∧
    (∀ template, template ∈ (ofHistory history).templates ↔
      current? history template.language = some template) ∧
    (ofHistory history).size = (history.map Template.language).dedup.length ∧
    -- A further insertion returns the template that was current.
    (∀ template, (ofHistory history).exchange template =
      (current? history template.language, ofHistory (history ++ [template]))) ∧
    -- A selector is answered by id first, then by alias.
    (∀ selector answer, (ofHistory history).find selector = answer ↔
      Answers history selector answer) ∧
    (∀ selector, (∃ template, (ofHistory history).find selector = .ok template) ↔
      ∃ template, current? history template.language = some template ∧
        template.isNamed selector = true) ∧
    (∀ template, current? history template.language = some template →
      (ofHistory history).find template.language = .ok template) ∧
    (∀ (draft : Draft) template, draft.build = .ok template →
      (ofHistory history).templates = [template] → ∀ name ∈ draft.aliases,
      Text.isBlankText name = false → ∀ selector,
      Draft.languageId selector = Draft.languageId name →
      (ofHistory history).find selector = .ok template) := by
  have stored : ∀ template ∈ history, template.NamesStored := by
    intro template listed
    rcases built template listed with ⟨draft, built⟩
    exact Draft.namesStored_of_build_eq_ok built
  refine ⟨ascending_ofHistory history, fun _ => mem_ofHistory_iff, size_ofHistory history,
    exchange_ofHistory history, fun _ _ => find_eq_iff stored,
    fun _ => exists_find_eq_ok_iff stored, fun _ => find_language stored, ?_⟩
  intro draft template built alone name given ink selector same
  exact find_alias_of_alone stored built alone given ink same

/-! ### A history with a replacement and a disputed alias -/

/-- A plain draft with a language id and aliases of its own. -/
def labelledDraft (language : String) (aliases : List String) : Draft :=
  { plainDraft .snake ⟨"info.h", "info.c"⟩ Overrides.none with language := some language, aliases }

/-- The template that is built from it. -/
def labelledTemplate (language : String) (aliases : List String) : Template :=
  { plainTemplate .snake ⟨"info.h", "info.c"⟩ Overrides.none with
    language, aliases, displayName := language }

theorem build_labelledDraft {given : String} {names aliases : List String}
    (named : (labelledDraft given names).checkLanguage = .ok language)
    (placed : (labelledDraft given names).checkFiles language = .ok ⟨"info.h", "info.c"⟩)
    (spelled : (labelledDraft given names).checkOverrides language .snake = .ok ())
    (normal : (names.map Draft.languageId).filter (fun name => !name.isEmpty) = aliases) :
    (labelledDraft given names).build = .ok (labelledTemplate language aliases) := by
  have plain : (plainDraft .snake ⟨"info.h", "info.c"⟩ Overrides.none).build =
      .ok (plainTemplate .snake ⟨"info.h", "info.c"⟩ Overrides.none) :=
    build_plainDraft (by decide +kernel) (by decide +kernel)
  rcases (Draft.builds_of_build_eq_ok plain).skeletons with
    ⟨declaration, definition, declared, defined, parsedDeclaration, parsedDefinition⟩
  simp only [Draft.build, bind_eq_ok_iff, Draft.require_eq_ok_iff]
  refine ⟨language, named, .snake, rfl, .c, rfl, _, placed, declaration, declared, _,
    parsedDeclaration, definition, defined, _, parsedDefinition, (), spelled, ?_⟩
  rw [← normal]
  rfl

/-- A template that is replaced later. -/
def formerGo : Template := labelledTemplate "go" ["golang", "x"]

/-- A template whose id another one has as an alias. -/
def disputedC : Template := labelledTemplate "c" ["x"]

/-- A template that replaces another one. -/
def currentGo : Template := labelledTemplate "go" ["golang", "c"]

/-- The three are inserted one after the other. -/
def disputedHistory : List Template := [formerGo, disputedC, currentGo]

theorem exists_build_of_disputed :
    ∀ template ∈ disputedHistory, ∃ draft : Draft, draft.build = .ok template := by
  intro template listed
  simp only [disputedHistory, List.mem_cons, List.not_mem_nil, or_false] at listed
  rcases listed with rfl | rfl | rfl
  · exact ⟨labelledDraft "Go" [" Golang", "X"], build_labelledDraft (by decide +kernel)
      (by decide +kernel) (by decide +kernel) (by decide +kernel)⟩
  · exact ⟨labelledDraft " c " ["X ", "  "], build_labelledDraft (by decide +kernel)
      (by decide +kernel) (by decide +kernel) (by decide +kernel)⟩
  · exact ⟨labelledDraft "GO" ["goLang", "C"], build_labelledDraft (by decide +kernel)
      (by decide +kernel) (by decide +kernel) (by decide +kernel)⟩

/-- Two templates are left; the disputed alias means the template with that id. -/
theorem ofHistory_refines_disputed :
    (∀ template ∈ disputedHistory, ∃ draft : Draft, draft.build = .ok template) ∧
      (ofHistory disputedHistory).size = 2 ∧
      ((ofHistory disputedHistory).exchange formerGo).1 = some currentGo ∧
      (ofHistory disputedHistory).find " C" = .ok disputedC ∧
      (ofHistory disputedHistory).find "X" = .ok disputedC ∧
      (ofHistory disputedHistory).find "ada" = .error (.unsupportedLanguage "ada" ["c", "go"]) := by
  have built := exists_build_of_disputed
  rcases ofHistory_refines disputedHistory built with
    ⟨-, listed, size, returned, answered, -, -, -⟩
  refine ⟨built, ?_, ?_, ?_, ?_, ?_⟩
  · rw [size]
    decide +kernel
  · rw [returned]
    decide +kernel
  · rw [answered]
    exact .byId (by decide +kernel)
  · rw [answered]
    refine .byAlias (by decide +kernel) (by decide +kernel) (by decide +kernel) ?_
    intro other current _
    have inserted := mem_of_current? current
    simp only [disputedHistory, List.mem_cons, List.not_mem_nil, or_false] at inserted
    rcases inserted with rfl | rfl | rfl <;> decide +kernel
  · rw [answered]
    refine .unknown (by decide +kernel) ?_ (by decide +kernel) ?_
    · intro other current
      have inserted := mem_of_current? current
      simp only [disputedHistory, List.mem_cons, List.not_mem_nil, or_false] at inserted
      rcases inserted with rfl | rfl | rfl <;> decide +kernel
    · intro language
      rw [isSome_current?_iff]
      have ids : disputedHistory.map Template.language = ["go", "c", "go"] := rfl
      rw [ids]
      simp only [List.mem_cons, List.not_mem_nil]
      tauto

end Catalog

end Imprint
