import Imprint.Pattern.Basic
import Mathlib.Data.List.Basic

/-!
# What a search finds

A search gives the preferred end of the leftmost match.  For patterns that are put together from
characters, runs of characters and conditions, the ends of a match are described by the pieces of
text that lie on the way there.
-/

namespace Imprint

variable {accepts : Char → Bool}

namespace Place

variable {place next : Place} {places : List Place} {seen : List Nat}

/-! ## Places listed once -/

theorem mem_of_mem_distinctFrom (listed : next ∈ distinctFrom seen places) : next ∈ places := by
  induction places generalizing seen with
  | nil => contradiction
  | cons first places ih =>
      rw [distinctFrom] at listed
      split at listed
      · exact List.mem_cons_of_mem first (ih listed)
      · rcases List.mem_cons.mp listed with rfl | later
        · exact List.mem_cons_self
        · exact List.mem_cons_of_mem first (ih later)

theorem mem_of_mem_distinct (listed : next ∈ distinct places) : next ∈ places :=
  mem_of_mem_distinctFrom listed

/-- The first place stays, so that some place stays. -/
theorem distinct_eq_nil_iff : distinct places = [] ↔ places = [] := by
  cases places with
  | nil => exact Iff.rfl
  | cons first places => simp [distinct, distinctFrom]

theorem distinctFrom_of_pairwise (unseen : ∀ place ∈ places, place.remaining ∉ seen)
    (apart : places.Pairwise fun first second => first.remaining ≠ second.remaining) :
    distinctFrom seen places = places := by
  induction places generalizing seen with
  | nil => rfl
  | cons first places ih =>
      rw [List.pairwise_cons] at apart
      rw [List.forall_mem_cons] at unseen
      have fresh : seen.contains first.remaining = false := by simpa using unseen.1
      rw [distinctFrom, if_neg (by simp only [fresh, Bool.false_eq_true, not_false_eq_true])]
      refine congrArg (first :: ·) (ih (fun place listed => ?_) apart.2)
      rw [List.mem_cons, not_or]
      exact ⟨(apart.1 place listed).symm, unseen.2 place listed⟩

/-- Places that are all different are all listed. -/
theorem distinct_of_pairwise
    (apart : places.Pairwise fun first second => first.remaining ≠ second.remaining) :
    distinct places = places :=
  distinctFrom_of_pairwise (fun _ _ => List.not_mem_nil) apart

/-! ## Runs of characters -/

/-- The places behind one or more accepted characters, the farthest first. -/
def behindRun (accepts : Char → Bool) (captured : Option (List Char)) : List Char → List Place
  | [] => []
  | c :: rest =>
      if accepts c then behindRun accepts captured rest ++ [⟨some c, rest, captured⟩] else []

variable {captured : Option (List Char)} {text : List Char}

/-- A place behind a run follows a nonempty piece of accepted characters. -/
theorem exists_run_of_mem_behindRun (listed : next ∈ behindRun accepts captured text) :
    next.captured = captured ∧
      ∃ run, run ≠ [] ∧ (∀ c ∈ run, accepts c = true) ∧ text = run ++ next.rest := by
  induction text with
  | nil => contradiction
  | cons c text ih =>
      rw [behindRun] at listed
      split at listed
      · next accepted =>
          rcases List.mem_append.mp listed with farther | nearest
          · obtain ⟨same, run, filled, all, rfl⟩ := ih farther
            refine ⟨same, c :: run, List.cons_ne_nil c run, ?_, rfl⟩
            exact List.forall_mem_cons.mpr ⟨accepted, all⟩
          · rw [List.mem_singleton.mp nearest]
            refine ⟨rfl, [c], List.cons_ne_nil c [], ?_, rfl⟩
            exact List.forall_mem_cons.mpr ⟨accepted, fun c none => absurd none List.not_mem_nil⟩
      · contradiction

theorem remaining_lt_of_mem_behindRun (listed : next ∈ behindRun accepts captured text) :
    next.remaining < text.length := by
  obtain ⟨-, run, filled, -, rfl⟩ := exists_run_of_mem_behindRun listed
  rw [List.length_append, remaining]
  have := List.length_pos_iff.mpr filled
  omega

theorem pairwise_behindRun (accepts : Char → Bool) (captured : Option (List Char))
    (text : List Char) :
    (behindRun accepts captured text).Pairwise
      fun first second => first.remaining ≠ second.remaining := by
  induction text with
  | nil => exact List.Pairwise.nil
  | cons c text ih =>
      rw [behindRun]
      split
      · refine List.pairwise_append.mpr ⟨ih, List.pairwise_singleton _ _, ?_⟩
        intro farther listed nearest last
        rw [List.mem_singleton.mp last]
        exact Nat.ne_of_lt (remaining_lt_of_mem_behindRun listed)
      · exact List.Pairwise.nil

/-- Behind every nonempty piece of accepted characters there is such a place. -/
theorem exists_mem_behindRun {run : List Char} (filled : run ≠ [])
    (all : ∀ c ∈ run, accepts c = true) (rest : List Char) :
    ∃ before, ⟨before, rest, captured⟩ ∈ behindRun accepts captured (run ++ rest) := by
  induction run with
  | nil => exact absurd rfl filled
  | cons c run ih =>
      rw [List.forall_mem_cons] at all
      rw [List.cons_append, behindRun, if_pos all.1]
      cases run with
      | nil => exact ⟨some c, List.mem_append_right _ List.mem_cons_self⟩
      | cons d run =>
          obtain ⟨before, listed⟩ := ih (List.cons_ne_nil d run) all.2
          exact ⟨before, List.mem_append_left _ listed⟩

end Place

namespace Pattern

open Place (behindRun)

variable {place next : Place} {first second : Pattern}

/-! ## The ends of a match -/

theorem exists_of_mem_ends_seq (listed : next ∈ ends (.seq first second) place) :
    ∃ middle ∈ ends first place, next ∈ ends second middle :=
  List.mem_flatMap.mp (Place.mem_of_mem_distinct listed)

theorem ends_seq_ne_nil (middle : Place) (reached : middle ∈ ends first place)
    (goes : ends second middle ≠ []) : ends (.seq first second) place ≠ [] := by
  obtain ⟨next, listed⟩ := List.exists_mem_of_ne_nil _ goes
  rw [ends, ne_eq, Place.distinct_eq_nil_iff]
  exact List.ne_nil_of_mem (List.mem_flatMap.mpr ⟨middle, reached, listed⟩)

theorem mem_ends_edge_iff {condition : Edge} :
    next ∈ ends (.edge condition) place ↔
      next = place ∧ condition.holds place.before place.rest = true := by
  rw [ends]
  split
  · next holds => simp [holds]
  · next fails => simp [fails]

theorem mem_ends_char_iff :
    next ∈ ends (.char accepts) place ↔
      ∃ c rest, place.rest = c :: rest ∧ accepts c = true ∧
        next = { place with before := some c, rest } := by
  rw [ends, Place.advance]
  cases place.rest with
  | nil => simp
  | cons c rest => by_cases accepted : accepts c = true <;> simp [accepted]

/-- Rounds of one accepted character each lead on as far as there are such characters. -/
theorem rounds_advance (accepts : Char → Bool) {fuel : Nat} {begun : List Nat}
    (before : Option Char) (text : List Char) (captured : Option (List Char))
    (enough : text.length < fuel)
    (behind : ∀ distance ∈ begun, text.length < distance) :
    (rounds (Place.advance accepts) true fuel begun ⟨before, text, captured⟩).1 =
      behindRun accepts captured text := by
  induction text generalizing fuel begun before with
  | nil =>
      obtain ⟨fuel, rfl⟩ := Nat.exists_eq_succ_of_ne_zero (Nat.ne_zero_of_lt enough)
      rw [rounds]
      split <;> rfl
  | cons c text ih =>
      obtain ⟨fuel, rfl⟩ := Nat.exists_eq_succ_of_ne_zero (Nat.ne_zero_of_lt enough)
      have fresh : text.length + 1 ∉ begun := fun listed => Nat.lt_irrefl _ (behind _ listed)
      have later := @ih fuel ((text.length + 1) :: begun) (some c) (Nat.lt_of_succ_lt_succ enough)
        (List.forall_mem_cons.mpr ⟨Nat.lt_succ_self _, fun distance listed =>
          Nat.lt_of_succ_lt (behind distance listed)⟩)
      rw [rounds, behindRun]
      by_cases accepted : accepts c = true
      · simp [Place.remaining, Place.advance, fresh, accepted, later]
      · simp [Place.remaining, Place.advance, fresh, accepted]

/-- The ends of a greedy run of characters. -/
theorem ends_repeated_char (accepts : Char → Bool) (place : Place) :
    ends (.repeated true (.char accepts)) place =
      behindRun accepts place.captured place.rest := by
  have noneBegun : ∀ distance ∈ [], place.rest.length < distance := fun distance none =>
    absurd none List.not_mem_nil
  have run := rounds_advance accepts place.before place.rest place.captured
    (Nat.lt_succ_self _) noneBegun
  rw [ends]
  simp only [ends, Place.remaining]
  rw [run, Place.distinct_of_pairwise (Place.pairwise_behindRun _ _ _)]

/-- A character that may be missing, at best there. -/
theorem ends_optional_char (accepts : Char → Bool) (place : Place) :
    ends (.either (.char accepts) .empty) place = place.advance accepts ++ [place] := by
  rw [ends, ends, ends]
  apply Place.distinct_of_pairwise
  obtain ⟨before, text, captured⟩ := place
  cases text with
  | nil => exact List.pairwise_singleton _ _
  | cons c text =>
      by_cases accepted : accepts c = true
      · simp [Place.advance, Place.remaining, accepted]
      · simp [Place.advance, accepted]

/-! ### A captured run -/

/-- A captured run of characters with something behind it. -/
def capturedRun (accepts : Char → Bool) (behind : Pattern) : Pattern :=
  .seq (.group 1 (.repeated true (.char accepts))) behind

variable {behind : Pattern} {run rest : List Char}

theorem capture_of_run (same : place.rest = run ++ rest) (same' : next.rest = rest) :
    (place.capture next).captured = some run := by
  simp [Place.capture, Place.remaining, same, same']

theorem exists_of_mem_ends_capturedRun (listed : next ∈ ends (capturedRun accepts behind) place) :
    ∃ run rest before, run ≠ [] ∧ (∀ c ∈ run, accepts c = true) ∧ place.rest = run ++ rest ∧
      next ∈ ends behind ⟨before, rest, some run⟩ := by
  obtain ⟨middle, reached, goes⟩ := exists_of_mem_ends_seq listed
  rw [ends, List.mem_map] at reached
  obtain ⟨last, reached, rfl⟩ := reached
  rw [ends_repeated_char] at reached
  obtain ⟨-, run, filled, all, same⟩ := Place.exists_run_of_mem_behindRun reached
  refine ⟨run, last.rest, last.before, filled, all, same, ?_⟩
  rw [if_pos rfl] at goes
  rw [← capture_of_run same rfl]
  exact goes

theorem ends_capturedRun_ne_nil (rest : List Char) (filled : run ≠ [])
    (all : ∀ c ∈ run, accepts c = true) (same : place.rest = run ++ rest)
    (goes : ∀ before, ends behind ⟨before, rest, some run⟩ ≠ []) :
    ends (capturedRun accepts behind) place ≠ [] := by
  obtain ⟨before, listed⟩ := Place.exists_mem_behindRun filled all rest
  rw [← same, ← ends_repeated_char] at listed
  refine ends_seq_ne_nil _ (List.mem_map.mpr ⟨_, listed, rfl⟩) ?_
  rw [if_pos rfl]
  have captured : (place.capture ⟨before, rest, place.captured⟩).captured = some run :=
    capture_of_run same rfl
  have reached : place.capture ⟨before, rest, place.captured⟩ = ⟨before, rest, some run⟩ := by
    rw [← captured]
    rfl
  rw [reached]
  exact goes before

/-! ### Literal text -/

/-- A text with something behind it. -/
def literally (text : List Char) (behind : Pattern) : Pattern :=
  text.foldr (fun c pattern => .seq (.char (· == c)) pattern) behind

variable {text : List Char}

theorem exists_of_mem_ends_literally (listed : next ∈ ends (literally text behind) place) :
    ∃ rest before, place.rest = text ++ rest ∧
      next ∈ ends behind ⟨before, rest, place.captured⟩ := by
  induction text generalizing place with
  | nil => exact ⟨place.rest, place.before, rfl, listed⟩
  | cons c text ih =>
      obtain ⟨middle, reached, goes⟩ := exists_of_mem_ends_seq listed
      obtain ⟨d, later, same, accepted, rfl⟩ := mem_ends_char_iff.mp reached
      obtain ⟨rest, before, rfl, goes⟩ := ih goes
      refine ⟨rest, before, ?_, goes⟩
      rw [same, eq_of_beq accepted, List.cons_append]

theorem ends_literally_ne_nil (rest : List Char) (same : place.rest = text ++ rest)
    (goes : ∀ before, ends behind ⟨before, rest, place.captured⟩ ≠ []) :
    ends (literally text behind) place ≠ [] := by
  induction text generalizing place with
  | nil =>
      obtain ⟨before, _, captured⟩ := place
      subst same
      exact goes before
  | cons c text ih =>
      obtain ⟨before, _, captured⟩ := place
      subst same
      have reached : ⟨some c, text ++ rest, captured⟩ ∈
          ends (.char (· == c)) ⟨before, c :: text ++ rest, captured⟩ := by
        simp [ends, Place.advance]
      exact ends_seq_ne_nil _ reached (ih rfl goes)

/-! ## Searches -/

/-- The place where a piece of text has been passed over that follows `before`. -/
def placeAfter (before : Option Char) (passed rest : List Char) : Place :=
  ⟨passed.getLast?.or before, rest, none⟩

theorem placeAfter_cons (before : Option Char) (c : Char) (passed rest : List Char) :
    placeAfter before (c :: passed) rest = placeAfter (some c) passed rest := by
  rw [placeAfter, placeAfter, List.getLast?_cons]
  cases passed.getLast? <;> rfl

variable {pattern : Pattern} {before : Option Char} {text : List Char}

/-- A search fails if there is no match anywhere. -/
theorem search_eq_none_iff :
    pattern.search before text = none ↔
      ∀ passed rest, text = passed ++ rest → ends pattern (placeAfter before passed rest) = [] := by
  induction text generalizing before with
  | nil =>
      rw [search, List.head?_eq_none_iff]
      constructor
      · intro none passed rest same
        obtain ⟨rfl, rfl⟩ := List.append_eq_nil_iff.mp same.symm
        exact none
      · intro none
        exact none [] [] rfl
  | cons c text ih =>
      rw [search]
      constructor
      · intro none passed rest same
        cases here : (ends pattern ⟨before, c :: text, Option.none⟩).head? with
        | some place => simp [here] at none
        | none =>
            rw [here] at none
            cases passed with
            | nil =>
                subst same
                exact List.head?_eq_none_iff.mp here
            | cons d passed =>
                obtain ⟨rfl, rfl⟩ := List.cons.inj same
                rw [placeAfter_cons]
                exact ih.mp none passed rest rfl
      · intro none
        have here := none [] (c :: text) rfl
        rw [placeAfter, List.getLast?_nil, Option.none_or] at here
        rw [here]
        refine ih.mpr fun passed rest same => ?_
        rw [← placeAfter_cons]
        exact none (c :: passed) rest (by rw [same, List.cons_append])

/-- A search finds the preferred end of the leftmost match. -/
theorem search_eq_some_iff {place : Place} :
    pattern.search before text = some place ↔
      ∃ passed rest, text = passed ++ rest ∧
        (ends pattern (placeAfter before passed rest)).head? = some place ∧
        ∀ earlier later, text = earlier ++ later → earlier.length < passed.length →
          ends pattern (placeAfter before earlier later) = [] := by
  induction text generalizing before with
  | nil =>
      rw [search]
      constructor
      · intro found
        exact ⟨[], [], rfl, found, fun earlier later same less => absurd less (Nat.not_lt_zero _)⟩
      · rintro ⟨passed, rest, same, found, -⟩
        obtain ⟨rfl, rfl⟩ := List.append_eq_nil_iff.mp same.symm
        exact found
  | cons c text ih =>
      rw [search]
      cases here : (ends pattern ⟨before, c :: text, none⟩).head? with
      | some first =>
          constructor
          · rintro ⟨⟩
            exact ⟨[], c :: text, rfl, here, fun earlier later same less =>
              absurd less (Nat.not_lt_zero _)⟩
          · rintro ⟨passed, rest, same, found, leftmost⟩
            cases passed with
            | nil =>
                subst same
                exact here.symm.trans found
            | cons d passed =>
                have none := leftmost [] (c :: text) rfl (Nat.zero_lt_succ _)
                rw [placeAfter, List.getLast?_nil, Option.none_or] at none
                rw [none] at here
                contradiction
      | none =>
          rw [ih]
          constructor
          · rintro ⟨passed, rest, rfl, found, leftmost⟩
            refine ⟨c :: passed, rest, rfl, by rwa [placeAfter_cons], ?_⟩
            intro earlier later same less
            cases earlier with
            | nil =>
                subst same
                exact List.head?_eq_none_iff.mp here
            | cons d earlier =>
                obtain ⟨rfl, same'⟩ := List.cons.inj same
                rw [placeAfter_cons]
                exact leftmost earlier later same' (Nat.lt_of_succ_lt_succ less)
          · rintro ⟨passed, rest, same, found, leftmost⟩
            cases passed with
            | nil =>
                subst same
                exact absurd (here.symm.trans found) nofun
            | cons d passed =>
                obtain ⟨rfl, rfl⟩ := List.cons.inj same
                refine ⟨passed, rest, rfl, by rwa [placeAfter_cons] at found, ?_⟩
                intro earlier later same less
                rw [← placeAfter_cons]
                exact leftmost (c :: earlier) later (by rw [same, List.cons_append])
                  (Nat.succ_lt_succ less)

end Pattern

end Imprint
