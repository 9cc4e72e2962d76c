/-!
# Results of computations that can fail

A computation that is made of others succeeds only if each of them does.  A check of a list stops
at the first entry that fails.
-/

namespace Imprint

universe u v

variable {ε : Type u} {α β : Type v}

@[simp]
theorem mapError_ok {ε' : Type u} (change : ε → ε') (value : α) :
    (Except.ok value).mapError change = .ok value :=
  rfl

@[simp]
theorem mapError_error {ε' : Type u} (change : ε → ε') (cause : ε) :
    (Except.error cause : Except ε α).mapError change = .error (change cause) :=
  rfl

theorem toOption_eq_some_iff {result : Except ε α} {value : α} :
    result.toOption = some value ↔ result = .ok value := by
  cases result <;> simp [Except.toOption]

theorem bind_eq_ok_iff {first : Except ε α} {next : α → Except ε β} {value : β} :
    first >>= next = .ok value ↔ ∃ middle, first = .ok middle ∧ next middle = .ok value := by
  cases first with
  | error cause =>
      constructor
      · intro done
        contradiction
      · rintro ⟨middle, impossible, -⟩
        contradiction
  | ok middle =>
      constructor
      · intro done
        exact ⟨middle, rfl, done⟩
      · rintro ⟨_, same, done⟩
        cases same
        exact done

/-- A computation that is made of others fails with the first of them that fails. -/
theorem bind_eq_error_iff {first : Except ε α} {next : α → Except ε β} {cause : ε} :
    first >>= next = .error cause ↔
      first = .error cause ∨ ∃ middle, first = .ok middle ∧ next middle = .error cause := by
  cases first with
  | error other =>
      constructor
      · rintro ⟨⟩
        exact .inl rfl
      · rintro (⟨⟨⟩⟩ | ⟨middle, impossible, -⟩)
        · rfl
        · contradiction
  | ok middle =>
      constructor
      · intro failed
        exact .inr ⟨middle, rfl, failed⟩
      · rintro (impossible | ⟨_, ⟨⟨⟩⟩, failed⟩)
        · contradiction
        · exact failed

section Checks

variable {check : α → Except ε PUnit} {entries : List α} {cause : ε}

/-- A list passes a check if each of its entries does. -/
theorem forM_eq_ok_iff :
    entries.forM check = .ok ⟨⟩ ↔ ∀ entry ∈ entries, check entry = .ok ⟨⟩ := by
  induction entries with
  | nil => exact iff_of_true rfl fun entry member => absurd member List.not_mem_nil
  | cons first entries ih =>
      rw [List.forM, bind_eq_ok_iff, List.forall_mem_cons, ← ih]
      constructor
      · rintro ⟨_, passes, others⟩
        exact ⟨passes, others⟩
      · rintro ⟨passes, others⟩
        exact ⟨⟨⟩, passes, others⟩

/-- What a check of a list reports is what it finds wrong with the first entry that fails. -/
theorem exists_of_forM_eq_error (failed : entries.forM check = .error cause) :
    ∃ before entry after, entries = before ++ entry :: after ∧
      (∀ other ∈ before, check other = .ok ⟨⟩) ∧ check entry = .error cause := by
  induction entries with
  | nil => contradiction
  | cons first entries ih =>
      rw [List.forM] at failed
      cases checked : check first with
      | error other =>
          rw [checked] at failed
          cases failed
          exact ⟨[], first, entries, rfl, fun other member => absurd member List.not_mem_nil,
            checked⟩
      | ok passed =>
          rw [checked] at failed
          obtain ⟨before, entry, after, rfl, passing, stops⟩ := ih failed
          refine ⟨first :: before, entry, after, rfl, ?_, stops⟩
          exact List.forall_mem_cons.mpr ⟨checked, passing⟩

/-- A check of a list reports what it finds wrong with the first entry that fails. -/
theorem forM_eq_error {before after : List α} {entry : α}
    (passing : ∀ other ∈ before, check other = .ok ⟨⟩) (stops : check entry = .error cause) :
    (before ++ entry :: after).forM check = .error cause := by
  induction before with
  | nil =>
      rw [List.nil_append, List.forM, stops]
      rfl
  | cons first before ih =>
      rw [List.forall_mem_cons] at passing
      rw [List.cons_append, List.forM, passing.1]
      exact ih passing.2

end Checks

end Imprint
