import Imprint.Proofs.Consistency.Validation
import Imprint.Proofs.Rendering.Builtin

/-!
# Drift is noticed

Two texts that were rendered with some names may be checked against others: the descriptor goes by
its other name, or another convention is asked for.  The check then sees the names that were
rendered and nothing else, and reports the first field whose name is not the expected one.  Main
statement: a rendered built-in pair passes under no names but its own, whatever its values are.
-/

namespace Imprint

/-! ## Names among other names -/

namespace Spellings

variable {spellings : Spellings} {token : List Char}

theorem fieldToken?_eq_none_iff :
    spellings.fieldToken? token = none ↔
      spellings.Foreign (String.ofList token) ∧
        Field.resolve? (String.ofList token) = none := by
  rw [fieldToken?, Option.map_eq_none_iff, Option.or_eq_none_iff, fieldOf?_eq_none_iff]

theorem fieldToken?_toList (spellings : Spellings) (name : String) :
    spellings.fieldToken? name.toList =
      ((spellings.fieldOf? name).or (Field.resolve? name)).map fun field => (field, name) := by
  rw [fieldToken?, String.ofList_toList]

theorem snd_of_fieldToken?_eq_some {entry : FieldToken}
    (named : spellings.fieldToken? token = some entry) : entry.2.toList = token := by
  obtain ⟨field, -, rfl⟩ := Option.map_eq_some_iff.mp named
  exact String.toList_ofList

end Spellings

/-- A frame that names the fields once has no identifier but its names to offer to other
spellings. -/
theorem Frame.fieldTokens_eq_filterMap {frame : Frame} {style : LiteralStyle} {hyphenated : Bool}
    {rendered expected : Spellings}
    (named : frame.fieldTokens style hyphenated rendered = rendered.names.entries)
    (known : ∀ token, rendered.fieldToken? token = none → expected.fieldToken? token = none) :
    frame.fieldTokens style hyphenated expected =
      Field.all.filterMap fun field => expected.fieldToken? (rendered.get field).toList := by
  have through (token : List Char) : expected.fieldToken? token =
      (rendered.fieldToken? token).bind fun entry => expected.fieldToken? entry.2.toList := by
    cases found : rendered.fieldToken? token with
    | none => exact known token found
    | some entry => rw [Option.bind_some, Spellings.snd_of_fieldToken?_eq_some found]
  calc
    frame.fieldTokens style hyphenated expected =
        (frame.tokens style hyphenated).filterMap fun token =>
          (rendered.fieldToken? token).bind fun entry => expected.fieldToken? entry.2.toList :=
      List.filterMap_congr fun token _ => through token
    _ = (frame.fieldTokens style hyphenated rendered).filterMap fun entry =>
          expected.fieldToken? entry.2.toList := List.filterMap_filterMap.symm
    _ = Field.all.filterMap fun field => expected.fieldToken? (rendered.get field).toList := by
      rw [named, PerField.entries, List.filterMap_map]
      rfl

/-! ## Names that a template can be checked against -/

namespace Template

variable {template : Template} {descriptor other : DescriptorName} {expected : Spellings}
  {field : Field}

/-- No name that a template pins spells a field. -/
def PinsApart (template : Template) : Prop :=
  ∀ field name, template.overrides.get field = some name → Field.resolve? name = none

/-- Each expected name is the standard one or the one that the template pins. -/
def Offers (template : Template) (descriptor : DescriptorName) (expected : Spellings) : Prop :=
  ∀ field, expected.get field = (standardNames descriptor expected.convention).get field ∨
    template.overrides.get field = some (expected.get field)

/-- What a check against expected names sees of a field.  A pinned name counts for nothing where
it is not expected. -/
def shown (template : Template) (descriptor : DescriptorName) (expected : Spellings)
    (field : Field) : Option String :=
  let name := (template.standardSpellings descriptor).get field
  if template.overrides.get field = none ∨ name = expected.get field then some name else none

theorem get_standardSpellings (template : Template) (descriptor : DescriptorName)
    (field : Field) :
    (template.standardSpellings descriptor).get field =
      (template.overrides.get field).getD
        ((standardNames descriptor template.convention).get field) := by
  rw [Spellings.get, standardSpellings, PerField.get_ofFunction]

/-- What spells no field under the names of a template spells none under expected names. -/
theorem fieldToken?_eq_none_of_offers (offers : template.Offers other expected)
    {token : List Char}
    (unknown : (template.standardSpellings descriptor).fieldToken? token = none) :
    expected.fieldToken? token = none := by
  rw [Spellings.fieldToken?_eq_none_iff] at unknown ⊢
  obtain ⟨foreign, unresolved⟩ := unknown
  refine ⟨fun field same => ?_, unresolved⟩
  rcases offers field with standard | pinned
  · rw [same, standard, resolve?_standardNames] at unresolved
    contradiction
  · refine foreign field ?_
    rw [get_standardSpellings, pinned, same, Option.getD_some]

/-- A name spells its field unless it is pinned. -/
theorem resolve?_get (apart : template.PinsApart) (descriptor : DescriptorName)
    (field : Field) :
    Field.resolve? ((template.standardSpellings descriptor).get field) =
      if template.overrides.get field = none then some field else none := by
  rw [get_standardSpellings]
  cases pinned : template.overrides.get field with
  | none => rw [Option.getD_none, resolve?_standardNames, if_pos rfl]
  | some name => rw [Option.getD_some, apart field name pinned, if_neg (Option.some_ne_none name)]

/-- A name is not expected for any field but its own. -/
theorem eq_of_get_eq_get (apart : template.PinsApart)
    (distinct : (template.standardSpellings descriptor).Distinct)
    (offers : template.Offers other expected) {found : Field}
    (same : (template.standardSpellings descriptor).get field = expected.get found) :
    found = field := by
  rcases offers found with standard | pinned
  · have resolved := resolve?_get apart descriptor field
    rw [same, standard, resolve?_standardNames] at resolved
    by_cases unpinned : template.overrides.get field = none
    · rw [if_pos unpinned] at resolved
      exact Option.some.inj resolved
    · rw [if_neg unpinned] at resolved
      contradiction
  · refine distinct found field ?_
    rw [same, get_standardSpellings, pinned, Option.getD_some]

/-- The name of a field counts for that field or for none. -/
theorem fieldToken?_get (apart : template.PinsApart)
    (distinct : (template.standardSpellings descriptor).Distinct)
    (offers : template.Offers other expected) (field : Field) :
    expected.fieldToken? ((template.standardSpellings descriptor).get field).toList =
      (template.shown descriptor expected field).map fun name => (field, name) := by
  have resolved := resolve?_get apart descriptor field
  rw [Spellings.fieldToken?_toList, resolved]
  cases named : expected.fieldOf? ((template.standardSpellings descriptor).get field) with
  | some found =>
      have same := Spellings.get_of_fieldOf?_eq_some named
      obtain rfl := eq_of_get_eq_get apart distinct offers same
      have seen : template.shown descriptor expected found =
          some ((template.standardSpellings descriptor).get found) := if_pos (.inr same)
      rw [seen]
      rfl
  | none =>
      have foreign := Spellings.fieldOf?_eq_none_iff.mp named field
      by_cases unpinned : template.overrides.get field = none
      · rw [if_pos unpinned, shown, if_pos (.inl unpinned)]
        rfl
      · rw [if_neg unpinned, shown, if_neg (not_or.mpr ⟨unpinned, foreign⟩)]
        rfl

/-- A pair that a template rendered shows its names to a check against other names, if the frames
of the template name the fields once. -/
theorem shows_of_namesOnce (apart : template.PinsApart)
    (distinct : (template.standardSpellings descriptor).Distinct)
    (offers : template.Offers other expected)
    (named : ∀ half, ((template.skeleton half).frame
      (template.standardSpellings descriptor)).NamesOnce template.style
        expected.convention.isHyphenated (template.standardSpellings descriptor))
    (record : Record) :
    let pair := template.pairOf (template.standardSpellings descriptor) record
    (Pair.ofTexts template expected pair.declaration pair.definition).Shows
      (template.shown descriptor expected) := by
  intro pair half
  have filled : ((Pair.ofTexts template expected pair.declaration pair.definition).text
      half).toList = ((template.skeleton half).frame (template.standardSpellings descriptor)).fill
        fun field => template.style.escapeChars (record.get field).toList := by
    rw [← Skeleton.toList_fill]
    cases half <;> rfl
  have known : ∀ token, (template.standardSpellings descriptor).fieldToken? token = none →
      expected.fieldToken? token = none :=
    fun _ => fieldToken?_eq_none_of_offers offers
  rw [Pair.fieldTokens_eq_of_frame (named half).1 _ filled]
  refine (Frame.fieldTokens_eq_filterMap (named half).2 known).trans ?_
  exact List.filterMap_congr fun field _ => fieldToken?_get apart distinct offers field

/-- Under its own convention a template offers the names that it renders with. -/
theorem offers_standardSpellings (template : Template) (descriptor : DescriptorName) :
    template.Offers descriptor (template.standardSpellings descriptor) := by
  intro field
  rw [get_standardSpellings]
  cases template.overrides.get field with
  | none => exact .inl rfl
  | some name => exact .inr rfl

theorem offers_standardNames (template : Template) (descriptor : DescriptorName)
    (convention : Convention) :
    template.Offers descriptor ⟨convention, standardNames descriptor convention⟩ :=
  fun _ => .inl rfl

/-- A field is shown as expected exactly if its name is the expected one. -/
theorem shown_bne_iff (template : Template) (descriptor : DescriptorName)
    (expected : Spellings) (field : Field) :
    (template.shown descriptor expected field != some (expected.get field)) =
      ((template.standardSpellings descriptor).get field != expected.get field) := by
  rw [Bool.eq_iff_iff, bne_iff_ne, bne_iff_ne, not_iff_not]
  by_cases same : (template.standardSpellings descriptor).get field = expected.get field
  · rw [shown, if_pos (.inr same), same]
    exact iff_of_true rfl rfl
  · rw [shown]
    split <;> simp [same]

/-- What is reported of a field whose name is not the expected one: the name, unless it is
pinned. -/
def reportedName (template : Template) (descriptor : DescriptorName) (field : Field) : String :=
  if template.overrides.get field = none then (template.standardSpellings descriptor).get field
  else missingMark

theorem getD_shown_of_ne
    (differs : (template.standardSpellings descriptor).get field ≠ expected.get field) :
    (template.shown descriptor expected field).getD missingMark =
      template.reportedName descriptor field := by
  rw [reportedName]
  by_cases unpinned : template.overrides.get field = none
  · rw [shown, if_pos (.inl unpinned), if_pos unpinned, Option.getD_some]
  · rw [shown, if_neg (not_or.mpr ⟨unpinned, differs⟩), if_neg unpinned, Option.getD_none]

end Template

/-! ## Standard names -/

/-- The two names of the descriptor differ, the other names do not depend on it. -/
theorem standardNames_get_eq_iff {first second : DescriptorName} (different : first ≠ second)
    (convention : Convention) (field : Field) :
    (standardNames first convention).get field = (standardNames second convention).get field ↔
      field ≠ .commitDescriptor := by
  cases first <;> cases second <;> try contradiction
  all_goals cases convention <;> cases field <;> decide

/-- Each convention has a name of its own for the commit date. -/
theorem convention_eq_of_commitDate {first second : DescriptorName}
    {convention other : Convention}
    (same : (standardNames first convention).get .commitDate =
      (standardNames second other).get .commitDate) : convention = other := by
  revert same
  cases convention <;> cases other <;> simp [standardNames, PerField.get]

/-! ## The first name that differs -/

namespace Template

variable {template : Template} {descriptor other : DescriptorName}

/-- If the descriptor goes by another name, its name is the only one that differs. -/
theorem find?_ne_of_descriptor (unpinned : template.overrides.get .commitDescriptor = none)
    (different : other ≠ descriptor) :
    Field.all.find? (fun field => (template.standardSpellings descriptor).get field !=
      (template.standardSpellings other).get field) = some .commitDescriptor := by
  have agree (field : Field) (apart : field ≠ .commitDescriptor) :
      (template.standardSpellings descriptor).get field =
        (template.standardSpellings other).get field := by
    rw [get_standardSpellings, get_standardSpellings,
      (standardNames_get_eq_iff different _ field).mpr apart]
  have differs : (template.standardSpellings descriptor).get .commitDescriptor ≠
      (template.standardSpellings other).get .commitDescriptor := by
    rw [get_standardSpellings, get_standardSpellings, unpinned, Option.getD_none,
      Option.getD_none]
    exact fun same => (standardNames_get_eq_iff different.symm _ _).mp same rfl
  refine List.find?_eq_some_iff_append.mpr ⟨bne_iff_ne.mpr differs,
    [.version, .commitHash, .commitDate], [.buildDate], rfl, ?_⟩
  intro earlier member
  have apart : earlier ≠ .commitDescriptor := by
    rintro rfl
    exact absurd member (by decide)
  simp [agree earlier apart]

/-- Under another convention some name differs, since the commit date is spelled in a way of its
own. -/
theorem exists_find?_ne_of_convention (unpinned : template.overrides.get .commitDate = none)
    {convention : Convention} (different : convention ≠ template.convention)
    (other : DescriptorName) :
    ∃ field, Field.all.find? (fun field => (template.standardSpellings descriptor).get field !=
      (standardNames other convention).get field) = some field := by
  have differs : (template.standardSpellings descriptor).get .commitDate ≠
      (standardNames other convention).get .commitDate := by
    rw [get_standardSpellings, unpinned, Option.getD_none]
    exact fun same => different (convention_eq_of_commitDate same).symm
  rw [← Option.isSome_iff_exists, List.find?_isSome]
  exact ⟨.commitDate, Field.mem_all _, bne_iff_ne.mpr differs⟩

end Template

/-! ## Built-in templates -/

namespace Builtin

variable {template : Template} {descriptor other : DescriptorName}

theorem pinsApart (listed : template ∈ all) : template.PinsApart := by
  simp only [all, List.mem_cons, List.not_mem_nil, or_false] at listed
  rcases listed with rfl | rfl | rfl | rfl | rfl | rfl | rfl | rfl | rfl
  all_goals
    intro field name pinned
    cases field <;> cases pinned <;> decide +kernel

/-- No built-in template pins the commit date or the descriptor. -/
theorem overrides_eq_none (listed : template ∈ all) :
    template.overrides.get .commitDate = none ∧
      template.overrides.get .commitDescriptor = none := by
  simp only [all, List.mem_cons, List.not_mem_nil, or_false] at listed
  rcases listed with rfl | rfl | rfl | rfl | rfl | rfl | rfl | rfl | rfl <;> exact ⟨rfl, rfl⟩

/-- A rendered pair that is checked against other names fails at the first name that is not the
expected one. -/
theorem check_pairOf (listed : template ∈ all) {convention : Option Convention}
    {expected : Spellings} {field : Field}
    (spelled : Catalog.expectedSpellings (.standard other) template convention = .ok expected)
    (offers : template.Offers other expected)
    (first : Field.all.find? (fun field =>
      (template.standardSpellings descriptor).get field != expected.get field) = some field)
    (record : Record) :
    let pair := template.pairOf (template.standardSpellings descriptor) record
    Catalog.builtin.check (.standard other) template.language convention pair.declaration
        pair.definition =
      .error (.inconsistent field (template.reportedName descriptor field)
        (template.reportedName descriptor field) (expected.get field)) := by
  intro pair
  have found := List.find?_some first
  have differs := bne_iff_ne.mp found
  have shows := Template.shows_of_namesOnce (pinsApart listed)
    (standardSpellings_injective listed descriptor) offers
    (fun half => frame_namesOnce listed descriptor half _) record
  have drifted : Field.all.find? (fun field =>
      template.shown descriptor expected field != some (expected.get field)) = some field := by
    simp only [Template.shown_bne_iff]
    exact first
  have reported := Pair.validate_of_shows shows drifted
  rw [Template.getD_shown_of_ne differs] at reported
  simp only [Catalog.check, find_language listed, spelled, bind, Except.bind]
  exact reported

/-- A rendered built-in pair fails every check against other names, whatever its values are.  If
the descriptor goes by its other name, the descriptor is reported as it was rendered.  If another
convention is asked for, the first field that it names otherwise is reported, as it was rendered
unless its name is pinned. -/
theorem check_drifted (listed : template ∈ all) (descriptor : DescriptorName) (record : Record) :
    ∃ pair,
      Catalog.builtin.render (.standard descriptor) record template.language = .ok pair ∧
      (∀ other, other ≠ descriptor →
        Catalog.builtin.check (.standard other) template.language none pair.declaration
            pair.definition =
          .error (.inconsistent .commitDescriptor (pair.spellings.get .commitDescriptor)
            (pair.spellings.get .commitDescriptor)
            ((standardNames other template.convention).get .commitDescriptor))) ∧
      ∀ other convention, convention ≠ template.convention → ∃ field seen,
        Field.all.find? (fun field =>
          pair.spellings.get field != (standardNames other convention).get field) = some field ∧
        seen = (if template.overrides.get field = none then pair.spellings.get field
          else missingMark) ∧
        Catalog.builtin.check (.standard other) template.language (some convention)
            pair.declaration pair.definition =
          .error (.inconsistent field seen seen ((standardNames other convention).get field)) := by
  obtain ⟨noDate, noDescriptor⟩ := overrides_eq_none listed
  refine ⟨_, render_language listed descriptor record, ?_, ?_⟩
  · intro other different
    have spelled : Catalog.expectedSpellings (.standard other) template none =
        .ok (template.standardSpellings other) := spellingsFor_eq_ok listed other
    have first := Template.find?_ne_of_descriptor noDescriptor different
    have reported := check_pairOf listed spelled (template.offers_standardSpellings other) first
      record
    rw [Template.reportedName, if_pos noDescriptor, template.get_standardSpellings other,
      noDescriptor, Option.getD_none] at reported
    exact reported
  · intro other convention different
    let expected : Spellings := ⟨convention, standardNames other convention⟩
    have spelled : Catalog.expectedSpellings (.standard other) template (some convention) =
        .ok expected := by
      rw [Catalog.expectedSpellings, if_neg different]
      exact Registry.spellings_eq_ok _ (pick_none_standard other convention)
        (standardNames_injective other convention)
    obtain ⟨field, first⟩ := Template.exists_find?_ne_of_convention noDate different other
    exact ⟨field, _, first, rfl,
      check_pairOf listed spelled (template.offers_standardNames other convention) first record⟩

/-- A record whose values look like the identifiers and the ends of literals around them. -/
def disguisedRecord : Record :=
  ⟨"\"\n\tversion = \"", "CommitSmart", "\" // commit_date:", "\\\"", "*/ \x60build-date\x60:"⟩

/-- The descriptor is reported by the name that it was rendered with, and a pinned name is missing
under another convention. -/
theorem check_drifted_go_disguised :
    go ∈ all ∧ DescriptorName.smart ≠ .tagOrBranch ∧ Convention.snake ≠ go.convention ∧
      ∃ pair,
        Catalog.builtin.render (.standard .tagOrBranch) disguisedRecord go.language = .ok pair ∧
        Catalog.builtin.check (.standard .smart) go.language none pair.declaration
            pair.definition =
          .error (.inconsistent .commitDescriptor "CommitTagOrBranch" "CommitTagOrBranch"
            "CommitSmart") ∧
        Catalog.builtin.check (.standard .smart) go.language (some .snake) pair.declaration
            pair.definition =
          .error (.inconsistent .version missingMark missingMark "version") := by
  have listed : go ∈ all := by simp [all]
  have renamed : DescriptorName.smart ≠ .tagOrBranch := by decide
  have converted : Convention.snake ≠ go.convention := by decide
  obtain ⟨pair, rendered, underOtherName, underOtherConvention⟩ :=
    check_drifted listed .tagOrBranch disguisedRecord
  obtain rfl := Except.ok.inj ((render_language listed _ _).symm.trans rendered)
  obtain ⟨field, seen, first, rfl, reported⟩ :=
    underOtherConvention .smart .snake converted
  have version : field = .version := by
    refine Option.some.inj (first.symm.trans ?_)
    decide +kernel
  subst version
  exact ⟨listed, renamed, converted, _, rendered, underOtherName .smart renamed, reported⟩

end Builtin

end Imprint
