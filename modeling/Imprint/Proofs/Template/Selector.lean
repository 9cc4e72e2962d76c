import Imprint.Proofs.Template.Built
import Mathlib.Data.List.DropRight

/-!
# Names that select a template

Language ids and aliases are stored trimmed and in small letters, and a selector is brought into
the same form before it is looked up.  Doing so twice changes nothing, so a selector names a built
template exactly if its stored form is the id or an alias of the template.
-/

namespace Imprint

/-! ## Stored forms -/

namespace Text

/-- Small letters stand 32 places behind the capital ones. -/
theorem toNat_toLower (c : Char) :
    c.toLower.toNat = if 65 ≤ c.toNat ∧ c.toNat ≤ 90 then c.toNat + 32 else c.toNat := by
  have capital_iff : (c.val ≥ 'A'.val ∧ c.val ≤ 'Z'.val) ↔ 65 ≤ c.toNat ∧ c.toNat ≤ 90 := by
    simp only [ge_iff_le, UInt32.le_iff_toNat_le]
    exact Iff.rfl
  by_cases capital : c.val ≥ 'A'.val ∧ c.val ≤ 'Z'.val
  · have lowered : c.toLower.val = c.val + ('a'.val - 'A'.val) :=
      congrArg Char.val (dif_pos capital)
    have bounds := capital_iff.mp capital
    have moved : (c.val + ('a'.val - 'A'.val)).toNat = c.toNat + 32 := by
      rw [UInt32.toNat_add]
      exact Nat.mod_eq_of_lt (show c.toNat + 32 < _ by omega)
    rw [if_pos bounds, Char.toNat, lowered, moved]
  · have same : c.toLower = c := dif_neg capital
    rw [same, if_neg (mt capital_iff.mpr capital)]

theorem toLower_toLower (c : Char) : c.toLower.toLower = c.toLower := by
  apply Char.toNat_inj.mp
  simp only [toNat_toLower]
  grind

/-- Small letters are no more blank than capital ones. -/
theorem isBlank_toLower (c : Char) : isBlank c.toLower = isBlank c := by
  rw [Bool.eq_iff_iff]
  simp only [isBlank, toNat_toLower]
  split
  · simp
    omega
  · rfl

theorem trimStart_trim (text : List Char) : trimStart (trim text) = trim text := by
  apply List.dropWhile_eq_self_iff.mpr
  intro nonempty
  have kept : trim text <+: trimStart text := List.rdropWhile_prefix isBlank _
  rw [kept.getElem]
  exact List.dropWhile_get_zero_not _ _ _

theorem trim_trim (text : List Char) : trim (trim text) = trim text := by
  rw [trim, trimStart_trim]
  exact List.rdropWhile_idempotent isBlank _

theorem trim_map_toLower (text : List Char) :
    trim (text.map Char.toLower) = (trim text).map Char.toLower := by
  have unchanged : isBlank ∘ Char.toLower = isBlank := funext isBlank_toLower
  simp only [trim, trimEnd, trimStart, List.dropWhile_map, unchanged, ← List.map_reverse]

/-- Nothing is left of a text only if it is blank. -/
theorem all_isBlank_of_trim_eq_nil {text : List Char} (nothing : trim text = []) :
    text.all isBlank = true := by
  have blankRest : ∀ c ∈ trimStart text, isBlank c = true :=
    (List.rdropWhile_eq_nil_iff (p := isBlank)).mp nothing
  rw [List.all_eq_true]
  intro c listed
  rw [← List.takeWhile_append_dropWhile (p := isBlank) (l := text), List.mem_append] at listed
  rcases listed with before | after
  · exact List.mem_takeWhile_imp before
  · exact blankRest c after

end Text

open Text

namespace Draft

theorem toList_languageId (text : String) :
    (languageId text).toList = (trim text.toList).map Char.toLower := by
  simp [languageId, asciiLower, trimmed]

/-- The stored form of a stored form is the same. -/
@[simp]
theorem languageId_languageId (text : String) : languageId (languageId text) = languageId text := by
  apply String.toList_inj.mp
  rw [toList_languageId, toList_languageId, trim_map_toLower, trim_trim, List.map_map]
  apply List.map_congr_left
  intro c _
  exact toLower_toLower c

theorem asciiLower_languageId (text : String) :
    asciiLower (languageId text) = languageId text := by
  apply String.toList_inj.mp
  rw [asciiLower, String.toList_ofList, toList_languageId, List.map_map]
  apply List.map_congr_left
  intro c _
  exact toLower_toLower c

/-- Only blank texts have an empty stored form. -/
theorem languageId_ne_empty {text : String} (ink : isBlankText text = false) :
    languageId text ≠ "" := by
  intro nothing
  have lowered : (trim text.toList).map Char.toLower = [] := by
    rw [← toList_languageId, nothing]
    rfl
  have blank := all_isBlank_of_trim_eq_nil (List.map_eq_nil_iff.mp lowered)
  rw [isBlankText, blank] at ink
  contradiction

end Draft

/-! ## The names of a template -/

namespace Template

/-- The language id and the aliases of a template are stored forms. -/
def NamesStored (template : Template) : Prop :=
  ∀ name ∈ template.language :: template.aliases, Draft.languageId name = name

variable {template : Template}

theorem NamesStored.language (stored : template.NamesStored) :
    Draft.languageId template.language = template.language :=
  stored _ List.mem_cons_self

/-- A selector names a template exactly if its stored form is among the names of the template. -/
theorem isNamed_iff (stored : template.NamesStored) (selector : String) :
    template.isNamed selector = true ↔
      Draft.languageId selector ∈ template.language :: template.aliases := by
  have lowered : ∀ name ∈ template.language :: template.aliases, asciiLower name = name := by
    intro name listed
    rw [← stored name listed]
    exact Draft.asciiLower_languageId name
  simp only [isNamed, sameIgnoringCase, List.any_eq_true, beq_iff_eq]
  constructor
  · rintro ⟨name, listed, same⟩
    rw [lowered name listed] at same
    subst same
    exact listed
  · intro listed
    exact ⟨_, listed, lowered _ listed⟩

end Template

namespace Draft

variable {draft : Draft} {template : Template}

/-- The language id of a draft is a stored form. -/
theorem languageId_of_checkLanguage {language : String}
    (named : draft.checkLanguage = .ok language) : languageId language = language := by
  cases given : draft.language with
  | none =>
      rw [checkLanguage, given] at named
      contradiction
  | some text =>
      rw [checkLanguage, given, Option.map_some] at named
      by_cases nothing : (languageId text).isEmpty = true
      · simp [nothing] at named
      · by_cases blank : (languageId text).toList.any isBlank = true
        · simp [nothing, blank] at named
        · have same : languageId text = language := by simpa [nothing, blank] using named
          rw [← same, languageId_languageId]

/-- The aliases of a built template are the stored forms of the aliases of the draft, without the
empty ones. -/
theorem aliases_of_build_eq_ok (built : draft.build = .ok template) :
    template.aliases = (draft.aliases.map languageId).filter fun name => !name.isEmpty := by
  simp only [build, bind_eq_ok_iff, require_eq_ok_iff] at built
  obtain ⟨language, -, convention, -, style, -, files, -, declaration, -, declarationSkeleton, -,
    definition, -, definitionSkeleton, -, ⟨⟩, -, done⟩ := built
  cases done
  rfl

theorem namesStored_of_build_eq_ok (built : draft.build = .ok template) :
    template.NamesStored := by
  intro name listed
  rcases List.mem_cons.mp listed with rfl | listed
  · exact languageId_of_checkLanguage (builds_of_build_eq_ok built).language
  · rw [aliases_of_build_eq_ok built] at listed
    have original := (List.mem_filter.mp listed).1
    rcases List.mem_map.mp original with ⟨given, -, rfl⟩
    exact languageId_languageId given

/-- Every alias that is not blank is among the names of the built template. -/
theorem languageId_mem_aliases (built : draft.build = .ok template) {name : String}
    (listed : name ∈ draft.aliases) (ink : isBlankText name = false) :
    languageId name ∈ template.aliases := by
  rw [aliases_of_build_eq_ok built, List.mem_filter]
  refine ⟨List.mem_map_of_mem listed, ?_⟩
  simpa using languageId_ne_empty ink

end Draft

end Imprint
