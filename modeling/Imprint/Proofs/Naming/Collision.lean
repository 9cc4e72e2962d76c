import Imprint.Proofs.Naming.Spellings
import Imprint.Proofs.Naming.Words

/-!
# Colliding names

The fields are named in canonical order, and the first field that has no name or takes the name of
an earlier field is the error.  Only pinned names can collide: whatever a case rule does with the
letters and between the words, the names of two fields differ in some letter besides their case.
Main statement: the names that are spelled, and the error if there are none.
-/

namespace Imprint

/-! ## The places of the fields -/

/-- What is listed before a field are the fields with smaller positions. -/
theorem Field.mem_iff_index_lt {before after : List Field} {field : Field}
    (listed : before ++ field :: after = Field.all) (other : Field) :
    other ∈ before ↔ other.index < field.index := by
  have ordered := listed ▸ Field.pairwise_all
  rw [List.pairwise_append, List.pairwise_cons] at ordered
  obtain ⟨-, ⟨less, -⟩, across⟩ := ordered
  constructor
  · intro member
    exact across other member field List.mem_cons_self
  · intro smaller
    have anywhere := listed ▸ other.mem_all
    rw [List.mem_append, List.mem_cons] at anywhere
    rcases anywhere with member | rfl | member
    · exact member
    · exact absurd smaller (Nat.lt_irrefl _)
    · exact absurd smaller (Nat.lt_asymm (less other member))

namespace Registry

variable (registry : Registry) (language : String) (convention : Convention)
  (overrides : Overrides)

/-- The name of a field, if it has one: what is pinned, or else its words under the rule of the
convention. -/
def nameOf? (field : Field) : Option String :=
  (overrides.get field).or
    ((registry.rule convention).map fun rule => rule.apply (field.words registry.descriptor))

/-- What is wrong with a field: it is neither pinned nor is there a rule for it, or it repeats the
name of an earlier field, the earliest that has it. -/
inductive Fault (field : Field) : Error → Prop
  | unspelled (unpinned : overrides.get field = none) (ruleless : registry.rule convention = none) :
      Fault field (.unsupportedConvention convention.name)
  | collision {first : Field} {name : String} (earlier : first.index < field.index)
      (taken : registry.nameOf? convention overrides first = some name)
      (earliest : ∀ other, other.index < first.index →
        registry.nameOf? convention overrides other ≠ some name)
      (repeated : registry.nameOf? convention overrides field = some name) :
      Fault field (.spellingCollision language name first field)

/-- The fields named one after the other, behind the names that are there. -/
def assignAll (earlier : List (Field × String)) :
    List Field → Except Error (List (Field × String))
  | [] => .ok earlier
  | field :: fields => do
      let entry ← registry.assign language convention overrides earlier field
      assignAll (earlier ++ [entry]) fields

variable {registry language convention overrides}

theorem pick_eq_ok_iff {field : Field} {name : String} :
    registry.pick convention overrides field = .ok name ↔
      registry.nameOf? convention overrides field = some name := by
  rw [pick, nameOf?]
  cases overrides.get field with
  | some pinned => simp
  | none =>
      rw [spell]
      cases registry.rule convention <;> simp

theorem pick_eq_error_iff {field : Field} {cause : Error} :
    registry.pick convention overrides field = .error cause ↔
      overrides.get field = none ∧ registry.rule convention = none ∧
        .unsupportedConvention convention.name = cause := by
  rw [pick]
  cases overrides.get field with
  | some pinned => simp
  | none =>
      rw [spell]
      cases registry.rule convention <;> simp

/-- A field has no name exactly if it is not pinned and there is no rule. -/
theorem nameOf?_eq_none_iff {field : Field} :
    registry.nameOf? convention overrides field = none ↔
      overrides.get field = none ∧ registry.rule convention = none := by
  rw [nameOf?, Option.or_eq_none_iff, Option.map_eq_none_iff]

/-! ## The first fault -/

/-- The names so far are those of the fields before the ones that follow, and none of these fields
has a fault. -/
structure Recorded (registry : Registry) (language : String) (convention : Convention)
    (overrides : Overrides) (earlier : List (Field × String)) (fields : List Field) : Prop where
  listed : earlier.map Prod.fst ++ fields = Field.all
  named : ∀ entry ∈ earlier, registry.nameOf? convention overrides entry.1 = some entry.2
  faultless : ∀ entry ∈ earlier, ∀ cause,
    ¬ Fault registry language convention overrides entry.1 cause

namespace Recorded

variable {earlier : List (Field × String)} {field : Field} {fields : List Field}

theorem index_lt
    (recorded : Recorded registry language convention overrides earlier (field :: fields))
    {entry : Field × String} (member : entry ∈ earlier) : entry.1.index < field.index :=
  (Field.mem_iff_index_lt recorded.listed entry.1).mp (List.mem_map_of_mem member)

/-- Every earlier field has its name on record. -/
theorem exists_entry
    (recorded : Recorded registry language convention overrides earlier (field :: fields))
    {other : Field} (smaller : other.index < field.index) :
    ∃ name, (other, name) ∈ earlier ∧
      registry.nameOf? convention overrides other = some name := by
  obtain ⟨entry, member, rfl⟩ :=
    List.mem_map.mp ((Field.mem_iff_index_lt recorded.listed other).mpr smaller)
  exact ⟨entry.2, member, recorded.named entry member⟩

/-- What was on record before an entry. -/
theorem of_append {before after : List (Field × String)} {entry : Field × String}
    (recorded : Recorded registry language convention overrides (before ++ entry :: after) fields) :
    Recorded registry language convention overrides before
      (entry.1 :: (after.map Prod.fst ++ fields)) := by
  constructor
  · rw [← recorded.listed, List.map_append, List.map_cons, List.append_assoc, List.cons_append]
  · exact fun other member => recorded.named other (List.mem_append_left _ member)
  · exact fun other member => recorded.faultless other (List.mem_append_left _ member)

/-- Among the names on record the first that is found belongs to the earliest field with that
name. -/
theorem find?_eq_some_iff
    (recorded : Recorded registry language convention overrides earlier (field :: fields))
    {name taken : String} {first : Field} :
    earlier.find? (·.2 == name) = some (first, taken) ↔
      taken = name ∧ first.index < field.index ∧
        registry.nameOf? convention overrides first = some name ∧
        ∀ other, other.index < first.index →
          registry.nameOf? convention overrides other ≠ some name := by
  constructor
  · intro found
    obtain ⟨same, before, after, rfl, unused⟩ := List.find?_eq_some_iff_append.mp found
    obtain rfl : taken = name := beq_iff_eq.mp same
    have member : (first, taken) ∈ before ++ (first, taken) :: after := by simp
    refine ⟨rfl, recorded.index_lt member, recorded.named _ member,
      fun other smaller hasName => ?_⟩
    obtain ⟨otherName, listed, named⟩ := recorded.of_append.exists_entry smaller
    obtain rfl := Option.some.inj (hasName.symm.trans named)
    simpa using unused _ listed
  · rintro ⟨rfl, smaller, hasName, earliest⟩
    obtain ⟨name, member, named⟩ := recorded.exists_entry smaller
    obtain rfl := Option.some.inj (hasName.symm.trans named)
    obtain ⟨before, after, rfl⟩ := List.append_of_mem member
    refine List.find?_eq_some_iff_append.mpr ⟨beq_self_eq_true _, before, after, rfl,
      fun entry listed => ?_⟩
    have differs := earliest entry.1 (recorded.of_append.index_lt listed)
    rw [recorded.of_append.named entry listed] at differs
    simpa using differs

/-- Naming a field fails exactly with what is wrong with it. -/
theorem assign_eq_error_iff
    (recorded : Recorded registry language convention overrides earlier (field :: fields))
    {cause : Error} :
    registry.assign language convention overrides earlier field = .error cause ↔
      Fault registry language convention overrides field cause := by
  rw [assign, bind_eq_error_iff, pick_eq_error_iff]
  constructor
  · rintro (⟨unpinned, ruleless, rfl⟩ | ⟨name, picked, failed⟩)
    · exact .unspelled unpinned ruleless
    · cases found : earlier.find? (·.2 == name) with
      | none =>
          rw [found] at failed
          contradiction
      | some entry =>
          rw [found] at failed
          cases failed
          obtain ⟨-, smaller, taken, earliest⟩ := recorded.find?_eq_some_iff.mp found
          exact .collision smaller taken earliest (pick_eq_ok_iff.mp picked)
  · rintro (⟨unpinned, ruleless⟩ | ⟨smaller, taken, earliest, repeated⟩)
    · exact .inl ⟨unpinned, ruleless, rfl⟩
    · refine .inr ⟨_, pick_eq_ok_iff.mpr repeated, ?_⟩
      rw [recorded.find?_eq_some_iff.mpr ⟨rfl, smaller, taken, earliest⟩]

/-- A field that is named is recorded behind the others. -/
theorem append
    (recorded : Recorded registry language convention overrides earlier (field :: fields))
    {entry : Field × String}
    (assigned : registry.assign language convention overrides earlier field = .ok entry) :
    Recorded registry language convention overrides (earlier ++ [entry]) fields := by
  obtain ⟨same, picked, -⟩ := of_assign_eq_ok assigned
  have faultless cause : ¬ Fault registry language convention overrides field cause := by
    rw [← recorded.assign_eq_error_iff, assigned]
    exact nofun
  constructor
  · rw [List.map_append, List.map_singleton, same, List.append_assoc, List.singleton_append,
      recorded.listed]
  · rw [List.forall_mem_append, List.forall_mem_singleton, same]
    exact ⟨recorded.named, pick_eq_ok_iff.mp picked⟩
  · rw [List.forall_mem_append, List.forall_mem_singleton, same]
    exact ⟨recorded.faultless, faultless⟩

/-- Naming the fields that follow fails with what is wrong with the first that has a fault. -/
theorem assignAll_eq_error_iff
    (recorded : Recorded registry language convention overrides earlier fields) {cause : Error} :
    registry.assignAll language convention overrides earlier fields = .error cause ↔
      ∃ field ∈ fields, Fault registry language convention overrides field cause ∧
        ∀ other, other.index < field.index → ∀ cause,
          ¬ Fault registry language convention overrides other cause := by
  induction fields generalizing earlier with
  | nil => simp [assignAll]
  | cons field fields ih =>
      have ordered := recorded.listed ▸ Field.pairwise_all
      rw [List.pairwise_append, List.pairwise_cons] at ordered
      obtain ⟨-, ⟨less, -⟩, -⟩ := ordered
      rw [assignAll, bind_eq_error_iff, recorded.assign_eq_error_iff]
      constructor
      · rintro (fault | ⟨entry, assigned, failed⟩)
        · refine ⟨field, List.mem_cons_self, fault, fun other smaller => ?_⟩
          obtain ⟨name, listed, -⟩ := recorded.exists_entry smaller
          exact recorded.faultless _ listed
        · obtain ⟨later, member, fault, first⟩ := (ih (recorded.append assigned)).mp failed
          exact ⟨later, List.mem_cons_of_mem field member, fault, first⟩
      · rintro ⟨later, member, fault, first⟩
        rcases List.mem_cons.mp member with rfl | member
        · exact .inl fault
        · cases assigned : registry.assign language convention overrides earlier field with
          | error other =>
              exact absurd (recorded.assign_eq_error_iff.mp assigned)
                (first field (less later member) other)
          | ok entry =>
              exact .inr ⟨entry, rfl,
                (ih (recorded.append assigned)).mpr ⟨later, member, fault, first⟩⟩

end Recorded

/-- The names cannot be spelled exactly if the fields cannot be named one after the other. -/
theorem spellings_eq_error_iff_assignAll {cause : Error} :
    registry.spellings language convention overrides = .error cause ↔
      registry.assignAll language convention overrides [] Field.all = .error cause := by
  simp only [spellings, assignAll, Field.all, bind_eq_error_iff, List.nil_append,
    List.cons_append, pure, Except.pure, reduceCtorEq]

/-- Names cannot be spelled because of the first field that has a fault. -/
theorem spellings_eq_error_iff {cause : Error} :
    registry.spellings language convention overrides = .error cause ↔
      ∃ field, Fault registry language convention overrides field cause ∧
        ∀ other, other.index < field.index → ∀ cause,
          ¬ Fault registry language convention overrides other cause := by
  have start : Recorded registry language convention overrides [] Field.all :=
    ⟨rfl, List.forall_mem_nil _, List.forall_mem_nil _⟩
  rw [spellings_eq_error_iff_assignAll, start.assignAll_eq_error_iff]
  simp only [Field.mem_all, true_and]

/-- Names that are spelled are the names of the fields, which differ. -/
theorem spellings_eq_ok_iff {spelled : Spellings} :
    registry.spellings language convention overrides = .ok spelled ↔
      spelled.convention = convention ∧
        (∀ field, registry.nameOf? convention overrides field = some (spelled.get field)) ∧
        spelled.Distinct := by
  simp only [← pick_eq_ok_iff]
  constructor
  · exact of_spellings_eq_ok
  · rintro ⟨rfl, picked, distinct⟩
    exact spellings_eq_ok language picked distinct

/-- Names are spelled if every field has one and no two have the same. -/
theorem exists_spellings_eq_ok_iff :
    (∃ spelled, registry.spellings language convention overrides = .ok spelled) ↔
      (∀ field, overrides.get field = none → registry.rule convention ≠ none) ∧
        Function.Injective (registry.nameOf? convention overrides) := by
  constructor
  · rintro ⟨spelled, done⟩
    obtain ⟨-, named, distinct⟩ := spellings_eq_ok_iff.mp done
    refine ⟨fun field unpinned ruleless => ?_, fun first second same => ?_⟩
    · have unnamed := nameOf?_eq_none_iff.mpr ⟨unpinned, ruleless⟩
      rw [named] at unnamed
      contradiction
    · rw [named, named, Option.some_inj] at same
      exact distinct first second same
  · rintro ⟨ruled, distinct⟩
    have named (field : Field) :
        ∃ name, registry.nameOf? convention overrides field = some name := by
      rw [← Option.ne_none_iff_exists']
      intro unnamed
      obtain ⟨unpinned, ruleless⟩ := nameOf?_eq_none_iff.mp unnamed
      exact ruled field unpinned ruleless
    choose name named using named
    refine ⟨⟨convention, PerField.ofFunction name⟩, spellings_eq_ok_iff.mpr ⟨rfl, ?_, ?_⟩⟩
    · intro field
      rw [named, Spellings.get, PerField.get_ofFunction]
    · intro first second same
      rw [Spellings.get, Spellings.get, PerField.get_ofFunction, PerField.get_ofFunction] at same
      exact distinct (by rw [named, named, same])

end Registry

/-! ## Names that are not pinned -/

/-- Under any rule the letters of the words stand in order, with the same text between them. -/
theorem CaseRule.map_toLower_join (rule : CaseRule) {words : List (List Char)}
    (small : ∀ word ∈ words, ∀ c ∈ word, c.isLower = true) :
    (rule.join words).map Char.toLower =
      (rule.separator.toList.map Char.toLower).intercalate words := by
  -- behind the first word the others are joined as by a rule of their own
  induction words generalizing rule with
  | nil => rfl
  | cons word words ih =>
      rw [List.forall_mem_cons] at small
      have first := rule.first.map_toLower_apply small.1
      cases words with
      | nil => rw [join, joinRest, List.flatMap_nil, List.append_nil, first,
          List.intercalate_singleton]
      | cons next words =>
          have others : rule.joinRest (next :: words) =
              rule.separator.toList ++ { rule with first := rule.rest }.join (next :: words) := by
            rw [join, joinRest, List.flatMap_cons, List.append_assoc]
            rfl
          rw [join, others, List.map_append, List.map_append, first, ih _ small.2,
            List.intercalate_cons_cons, List.append_assoc]

theorem Field.words_small (descriptor : DescriptorName) (field : Field) :
    ∀ word ∈ (field.words descriptor).map String.toList, ∀ c ∈ word, c.isLower = true := by
  have checked : ∀ word ∈ (field.words descriptor).map String.toList,
      word.all Char.isLower = true := by
    cases field <;> cases descriptor <;> decide
  exact fun word member => List.all_eq_true.mp (checked word member)

/-- Whatever stands between their words, the fields are told apart by them. -/
theorem Field.intercalate_words_injective (separator : List Char) (descriptor : DescriptorName) :
    Function.Injective fun field : Field =>
      separator.intercalate ((field.words descriptor).map String.toList) := by
  intro first second same
  cases first <;> cases second <;> cases descriptor <;>
    simp_all [words, DescriptorName.words, List.intercalate]

/-- No case rule spells two fields alike. -/
theorem CaseRule.apply_words_injective (rule : CaseRule) (descriptor : DescriptorName) :
    Function.Injective fun field : Field => rule.apply (field.words descriptor) := by
  intro first second same
  have letters := congrArg (·.toList.map Char.toLower) same
  simp only [apply, String.toList_ofList, rule.map_toLower_join (Field.words_small descriptor _)]
    at letters
  exact Field.intercalate_words_injective _ descriptor letters

namespace Registry

variable {registry : Registry} {language : String} {convention : Convention}
  {overrides : Overrides}

/-- Without pinned names no two fields collide. -/
theorem spellings_none_ne_collision (other name : String) (first second : Field) :
    registry.spellings language convention Overrides.none ≠
      .error (.spellingCollision other name first second) := by
  intro failed
  obtain ⟨field, fault, -⟩ := spellings_eq_error_iff.mp failed
  have spelled (field : Field) : registry.nameOf? convention Overrides.none field =
      (registry.rule convention).map fun rule => rule.apply (field.words registry.descriptor) := by
    rw [nameOf?, Overrides.none, PerField.get_const, Option.none_or]
  cases fault with
  | collision earlier taken earliest repeated =>
      rw [spelled, Option.map_eq_some_iff] at taken repeated
      obtain ⟨rule, ruled, taken⟩ := taken
      obtain ⟨_, same, repeated⟩ := repeated
      obtain rfl := Option.some.inj (ruled.symm.trans same)
      obtain rfl := rule.apply_words_injective registry.descriptor (taken.trans repeated.symm)
      exact Nat.lt_irrefl _ earlier

/-- The names of the fields are spelled if every field is pinned or ruled and no two names are the
same.  Otherwise the error is what is wrong with the first field that has a fault, and without
pinned names this is never a collision. -/
theorem spellings_outcome (registry : Registry) (language : String) (convention : Convention)
    (overrides : Overrides) :
    ((∃ spelled, registry.spellings language convention overrides = .ok spelled) ↔
      (∀ field, overrides.get field = none → registry.rule convention ≠ none) ∧
        Function.Injective (registry.nameOf? convention overrides)) ∧
    (∀ spelled, registry.spellings language convention overrides = .ok spelled →
      spelled.convention = convention ∧
        ∀ field, registry.nameOf? convention overrides field = some (spelled.get field)) ∧
    (∀ cause, registry.spellings language convention overrides = .error cause ↔
      ∃ field, Fault registry language convention overrides field cause ∧
        ∀ other, other.index < field.index → ∀ cause,
          ¬ Fault registry language convention overrides other cause) ∧
    ∀ other name first second, registry.spellings language convention Overrides.none ≠
      .error (.spellingCollision other name first second) := by
  refine ⟨exists_spellings_eq_ok_iff, fun spelled done => ?_, fun cause => spellings_eq_error_iff,
    spellings_none_ne_collision⟩
  obtain ⟨same, named, -⟩ := spellings_eq_ok_iff.mp done
  exact ⟨same, named⟩

/-- Two names that are the same. -/
def pinnedTwice : Overrides :=
  (Overrides.none.set .version (some "stamp")).set .commitHash (some "stamp")

/-- A collision is reported before a later field that has no name. -/
theorem spellings_outcome_pinnedTwice :
    empty.spellings "go" .snake pinnedTwice =
      .error (.spellingCollision "go" "stamp" .version .commitHash) := by
  have nothingBefore (other : Field) : ¬ other.index < Field.version.index := Nat.not_lt_zero _
  refine ((spellings_outcome empty "go" .snake pinnedTwice).2.2.1 _).mpr ⟨.commitHash, ?_, ?_⟩
  · exact .collision Nat.zero_lt_one rfl
      (fun other smaller => absurd smaller (nothingBefore other)) rfl
  intro other smaller cause fault
  have same : other.index = 0 := Nat.lt_one_iff.mp smaller
  cases fault with
  | unspelled unpinned => cases other <;> simp_all [Field.index, pinnedTwice]
  | collision earlier => exact Nat.not_lt_zero _ (same ▸ earlier)

end Registry

end Imprint
