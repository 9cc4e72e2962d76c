import Imprint.Consistency
import Imprint.Proofs.Naming.Spellings

/-!
# What the check of a pair accepts and whom it blames

A pair passes its check exactly if each of its names occurs in both texts and no other identifier
of the texts spells a field.  If a pair fails, the field that is reported is the first one that a
text does not respect, and each side is reported by an identifier of that field.
-/

namespace Imprint

/-! ## Attribution -/

namespace Spellings

variable {spellings : Spellings} {token : String} {field : Field}

/-- An identifier that is none of the five names. -/
def Foreign (spellings : Spellings) (token : String) : Prop :=
  ∀ field, token ≠ spellings.get field

instance (spellings : Spellings) (token : String) : Decidable (spellings.Foreign token) :=
  decidable_of_iff (∀ field ∈ Field.all, token ≠ spellings.get field) (by simp [Foreign])

/-- Whether an identifier counts for a field: it is the name of the field, or it is none of the
five names and spells the field in some other way. -/
def Attributes (spellings : Spellings) (token : String) (field : Field) : Prop :=
  token = spellings.get field ∨ spellings.Foreign token ∧ Field.resolve? token = some field

instance (spellings : Spellings) (token : String) (field : Field) :
    Decidable (spellings.Attributes token field) :=
  inferInstanceAs (Decidable (_ ∨ _))

theorem fieldOf?_eq_none_iff : spellings.fieldOf? token = none ↔ spellings.Foreign token := by
  rw [fieldOf?, List.find?_eq_none]
  constructor
  · intro unnamed field same
    exact unnamed field field.mem_all (beq_iff_eq.mpr same.symm)
  · intro foreign field _ same
    exact foreign field (beq_iff_eq.mp same).symm

theorem get_of_fieldOf?_eq_some (named : spellings.fieldOf? token = some field) :
    token = spellings.get field := by
  rw [fieldOf?] at named
  have same := List.find?_some named
  exact (beq_iff_eq.mp same).symm

/-- Names that can be told apart are found by themselves. -/
theorem fieldOf?_eq_some_iff (distinct : spellings.Distinct) :
    spellings.fieldOf? token = some field ↔ token = spellings.get field := by
  constructor
  · exact get_of_fieldOf?_eq_some
  · intro same
    cases named : spellings.fieldOf? token with
    | none => exact absurd same (fieldOf?_eq_none_iff.mp named field)
    | some other =>
        have shared := (get_of_fieldOf?_eq_some named).symm.trans same
        rw [distinct other field shared]

end Spellings

namespace Pair

variable {pair : Pair} {half : Half} {field : Field} {token : String}

/-- The field of an identifier is the one that it is attributed to. -/
theorem fieldOf?_eq_some_iff (distinct : pair.spellings.Distinct) :
    pair.fieldOf? token = some field ↔ pair.spellings.Attributes token field := by
  rw [fieldOf?, Spellings.Attributes, Option.or_eq_some_iff,
    Spellings.fieldOf?_eq_some_iff distinct, Spellings.fieldOf?_eq_none_iff]

/-- The identifiers of one half that count for a field, in order. -/
def attributed (pair : Pair) (half : Half) (field : Field) : List String :=
  (pair.tokens half).filter fun token => pair.spellings.Attributes token field

theorem mem_attributed :
    token ∈ pair.attributed half field ↔
      token ∈ pair.tokens half ∧ pair.spellings.Attributes token field := by
  rw [attributed, List.mem_filter, decide_eq_true_iff]

/-- Grouping the identifiers by their fields keeps those that count for each. -/
theorem tokensOf_eq_attributed (distinct : pair.spellings.Distinct) (half : Half)
    (field : Field) : pair.tokensOf half field = pair.attributed half field := by
  rw [tokensOf, fieldTokens, attributed]
  induction pair.tokens half with
  | nil => rfl
  | cons token tokens ih =>
      have counts := @fieldOf?_eq_some_iff pair field token distinct
      rw [List.filterMap_cons, List.filter_cons]
      cases named : pair.fieldOf? token with
      | none =>
          rw [named] at counts
          have apart : ¬ pair.spellings.Attributes token field := fun attributed =>
            Option.some_ne_none _ (counts.mpr attributed).symm
          rw [if_neg (by simpa using apart)]
          exact ih
      | some other =>
          rw [named, Option.some_inj] at counts
          rw [Option.map_some]
          dsimp only
          rw [List.filter_cons]
          by_cases same : other = field
          · rw [if_pos (beq_iff_eq.mpr same), if_pos (by simpa using counts.mp same),
              List.map_cons, ih]
          · rw [if_neg (by simpa using same), if_neg (by simpa using mt counts.mpr same)]
            exact ih

/-! ## Reports -/

/-- What may be reported for a field that identifiers count for: the first of them that differs from
the expected name, else the first of them, else the mark for a missing field. -/
inductive Reports (expected : String) : List String → String → Prop
  | differing {before after : List String} {name : String}
      (agree : ∀ other ∈ before, other = expected) (differs : name ≠ expected) :
      Reports expected (before ++ name :: after) name
  | agreeing {name : String} {rest : List String}
      (agree : ∀ other ∈ name :: rest, other = expected) : Reports expected (name :: rest) name
  | missing : Reports expected [] missingMark

theorem offending?_eq_none_iff {expected : String} {found : List String} :
    offending? expected found = none ↔ ∀ other ∈ found, other = expected := by
  simp [offending?]

theorem reports_reported (expected : String) (found : List String) :
    Reports expected found (reported expected found) := by
  rw [reported]
  cases offends : offending? expected found with
  | some name =>
      obtain ⟨differs, before, after, rfl, agree⟩ := List.find?_eq_some_iff_append.mp offends
      refine .differing (fun other member => ?_) (by simpa using differs)
      simpa using agree other member
  | none =>
      have agree := offending?_eq_none_iff.mp offends
      cases found with
      | nil => exact .missing
      | cons name rest => exact .agreeing agree

/-! ## One field -/

/-- A text respects the name of a field: the name occurs, and no identifier that is none of the
five names spells the field. -/
structure Respects (pair : Pair) (half : Half) (field : Field) : Prop where
  occurs : pair.spellings.get field ∈ pair.tokens half
  exclusive : ∀ token ∈ pair.tokens half, pair.spellings.Foreign token →
    Field.resolve? token ≠ some field

/-- A text respects a name if nothing else counts for the field. -/
theorem agrees_attributed_iff :
    agrees (pair.spellings.get field) (pair.attributed half field) = true ↔
      pair.Respects half field := by
  rw [agrees, Bool.and_eq_true, Bool.not_eq_true', List.isEmpty_eq_false_iff,
    Option.isNone_iff_eq_none, offending?_eq_none_iff]
  constructor
  · rintro ⟨found, agree⟩
    obtain ⟨token, member⟩ := List.exists_mem_of_ne_nil _ found
    refine ⟨?_, fun other there foreign resolved => ?_⟩
    · rw [← agree token member]
      exact (mem_attributed.mp member).1
    · exact foreign field (agree other (mem_attributed.mpr ⟨there, .inr ⟨foreign, resolved⟩⟩))
  · rintro ⟨occurs, exclusive⟩
    refine ⟨List.ne_nil_of_mem (mem_attributed.mpr ⟨occurs, .inl rfl⟩), fun token member => ?_⟩
    obtain ⟨there, same | ⟨foreign, resolved⟩⟩ := mem_attributed.mp member
    · exact same
    · exact absurd resolved (exclusive token there foreign)

theorem validateField_eq_ok (distinct : pair.spellings.Distinct)
    (respected : ∀ half, pair.Respects half field) : pair.validateField field = .ok () := by
  simp only [validateField, tokensOf_eq_attributed distinct]
  rw [if_pos]
  rw [Bool.and_eq_true, agrees_attributed_iff, agrees_attributed_iff]
  exact ⟨respected .declaration, respected .definition⟩

theorem validateField_eq_error (distinct : pair.spellings.Distinct)
    (violated : ¬ ∀ half, pair.Respects half field) :
    pair.validateField field =
      .error (.inconsistent field
        (reported (pair.spellings.get field) (pair.attributed .declaration field))
        (reported (pair.spellings.get field) (pair.attributed .definition field))
        (pair.spellings.get field)) := by
  simp only [validateField, tokensOf_eq_attributed distinct]
  rw [if_neg]
  rw [Bool.and_eq_true, agrees_attributed_iff, agrees_attributed_iff]
  rintro ⟨declaration, definition⟩
  refine violated fun half => ?_
  cases half with
  | declaration => exact declaration
  | definition => exact definition

theorem validateField_eq_ok_iff (distinct : pair.spellings.Distinct) :
    pair.validateField field = .ok () ↔ ∀ half, pair.Respects half field := by
  constructor
  · intro passes
    by_contra violated
    rw [validateField_eq_error distinct violated] at passes
    contradiction
  · exact validateField_eq_ok distinct

/-! ## All fields -/

/-- Each name occurs in both texts, and no identifier that is none of the five names spells a
field. -/
structure Consistent (pair : Pair) : Prop where
  occurs : ∀ half field, pair.spellings.get field ∈ pair.tokens half
  exclusive : ∀ half, ∀ token ∈ pair.tokens half, pair.spellings.Foreign token →
    Field.resolve? token = none

theorem consistent_iff : pair.Consistent ↔ ∀ field half, pair.Respects half field := by
  constructor
  · rintro ⟨occurs, exclusive⟩ field half
    refine ⟨occurs half field, fun token member foreign resolved => ?_⟩
    exact Option.some_ne_none _ (resolved.symm.trans (exclusive half token member foreign))
  · intro respected
    refine ⟨fun half field => (respected field half).occurs, ?_⟩
    intro half token member foreign
    rw [Option.eq_none_iff_forall_ne_some]
    exact fun field => (respected field half).exclusive token member foreign

/-- An error blames the first field that a text does not respect.  It gives the name that was
expected and what each text has in its place. -/
inductive Blames (pair : Pair) : Error → Prop
  | first {field : Field} {declared defined : String}
      (respected : ∀ earlier, earlier.index < field.index → ∀ half, pair.Respects half earlier)
      (violated : ¬ ∀ half, pair.Respects half field)
      (declaration : Reports (pair.spellings.get field) (pair.attributed .declaration field)
        declared)
      (definition : Reports (pair.spellings.get field) (pair.attributed .definition field)
        defined) :
      Blames pair (.inconsistent field declared defined (pair.spellings.get field))

/-- Every field before the first one that fails its check has passed it. -/
theorem respects_of_index_lt (distinct : pair.spellings.Distinct) {before after : List Field}
    (split : Field.all = before ++ field :: after)
    (passing : ∀ other ∈ before, pair.validateField other = .ok ()) {earlier : Field}
    (less : earlier.index < field.index) (half : Half) : pair.Respects half earlier := by
  have ordered := split ▸ Field.pairwise_all
  have listed := split ▸ earlier.mem_all
  rw [List.pairwise_append, List.pairwise_cons] at ordered
  rw [List.mem_append, List.mem_cons] at listed
  rcases listed with member | rfl | later
  · exact (validateField_eq_ok_iff distinct).mp (passing earlier member) half
  · exact absurd less (Nat.lt_irrefl _)
  · exact absurd less (Nat.lt_asymm (ordered.2.1.1 earlier later))

theorem blames_of_validate_eq_error (distinct : pair.spellings.Distinct) {error : Error}
    (failed : pair.validate = .error error) : pair.Blames error := by
  obtain ⟨before, field, after, split, passing, stops⟩ := exists_of_forM_eq_error failed
  have violated : ¬ ∀ half, pair.Respects half field := by
    intro respected
    rw [validateField_eq_ok distinct respected] at stops
    contradiction
  rw [validateField_eq_error distinct violated] at stops
  cases stops
  exact .first (fun earlier less => respects_of_index_lt distinct split passing less) violated
    (reports_reported _ _) (reports_reported _ _)

/-- A pair whose names have been spelled passes its check exactly if it is consistent.  If it does
not pass, the first field that a text does not respect is blamed. -/
theorem validate_eq_ok_iff_and_blames {registry : Registry} {language : String}
    {convention : Convention} {overrides : Overrides}
    (spelled : registry.spellings language convention overrides = .ok pair.spellings) :
    (pair.validate = .ok () ↔ pair.Consistent) ∧
      ∀ error, pair.validate = .error error → pair.Blames error := by
  obtain ⟨-, -, distinct⟩ := Registry.of_spellings_eq_ok spelled
  refine ⟨?_, fun error => blames_of_validate_eq_error distinct⟩
  rw [validate, forM_eq_ok_iff, consistent_iff]
  constructor
  · intro passing field
    exact (validateField_eq_ok_iff distinct).mp (passing field field.mem_all)
  · intro respected field _
    exact validateField_eq_ok distinct (respected field)

/-- Two texts in which the version goes by another field's alias and two fields are misspelled. -/
def aliasedPair : Pair where
  language := "demo"
  convention := .snake
  style := .c
  spellings :=
    ⟨.snake, ⟨"commitSmart", "commit_hash", "commit_date", "commit_smart", "build_date"⟩⟩
  declaration := "commitSmart commit_hash commit_date commit_smart BuildDate"
  definition := "commitSmart commit_hash commit_date commitDate commit_smart build_date"
  files := ⟨"demo.h", "demo.c"⟩

/-- Of two misspelled fields the first is blamed. -/
theorem validate_eq_ok_iff_and_blames_aliasedPair :
    (Registry.standard .smart).spellings "demo" .snake
        (Overrides.none.set .version (some "commitSmart")) = .ok aliasedPair.spellings ∧
      (aliasedPair.validate = .ok () ↔ aliasedPair.Consistent) ∧
      aliasedPair.validate =
        .error (.inconsistent .commitDate "commit_date" "commitDate" "commit_date") ∧
      aliasedPair.Blames
        (.inconsistent .commitDate "commit_date" "commitDate" "commit_date") := by
  have spelled : (Registry.standard .smart).spellings "demo" .snake
      (Overrides.none.set .version (some "commitSmart")) = .ok aliasedPair.spellings := by
    decide +kernel
  have failed : aliasedPair.validate =
      .error (.inconsistent .commitDate "commit_date" "commitDate" "commit_date") := by
    decide +kernel
  obtain ⟨passes, blames⟩ := validate_eq_ok_iff_and_blames spelled
  exact ⟨spelled, passes, failed, blames _ failed⟩

end Pair

end Imprint
