import Imprint.Record.Descriptor
import Mathlib.Data.Bool.AllAny

/-!
# Derived descriptors

A descriptor that is derived for a commit is fit for file names.  Cleaning a branch replaces each
maximal run of unfit characters by one hyphen and changes nothing else; the parts of a descriptor
are joined by a hyphen only where both are there.
-/

namespace Imprint

variable {c : Char} {branch text : List Char}

/-! ## Characters that are kept -/

/-- Latin letters and digits, the underscore and the hyphen. -/
def IsKept (c : Char) : Prop :=
  ('A' ≤ c ∧ c ≤ 'Z') ∨ ('a' ≤ c ∧ c ≤ 'z') ∨ ('0' ≤ c ∧ c ≤ '9') ∨ c = '_' ∨ c = '-'

instance (c : Char) : Decidable (IsKept c) := inferInstanceAs (Decidable (_ ∨ _))

theorem isAlpha_iff : c.isAlpha = true ↔ ('A' ≤ c ∧ c ≤ 'Z') ∨ ('a' ≤ c ∧ c ≤ 'z') := by
  have upper : c.isUpper = true ↔ 'A' ≤ c ∧ c ≤ 'Z' := decide_eq_true_iff
  have lower : c.isLower = true ↔ 'a' ≤ c ∧ c ≤ 'z' :=
    Bool.and_eq_true_iff.trans (and_congr decide_eq_true_iff decide_eq_true_iff)
  exact Bool.or_eq_true_iff.trans (or_congr upper lower)

theorem isBranchChar_iff : isBranchChar c = true ↔ IsKept c := by
  simp only [isBranchChar, IsKept, Char.isAlphanum, isAlpha_iff, Char.isDigit, Char.le_def,
    ge_iff_le, Bool.or_eq_true, Bool.and_eq_true, decide_eq_true_eq, beq_iff_eq, or_assoc]

theorem isKept_hyphen : IsKept '-' := isBranchChar_iff.mp rfl

/-! ## Maximal runs -/

/-- The second text is the first with every maximal run of characters that are not kept replaced
by one hyphen. -/
inductive Collapses : List Char → List Char → Prop
  | nil : Collapses [] []
  | keep {c : Char} {branch text : List Char} (kept : IsKept c) (rest : Collapses branch text) :
      Collapses (c :: branch) (c :: text)
  | replace {run branch text : List Char} (nonempty : run ≠ []) (unfit : ∀ c ∈ run, ¬ IsKept c)
      (maximal : ∀ c ∈ branch.head?, IsKept c) (rest : Collapses branch text) :
      Collapses (run ++ branch) ('-' :: text)

theorem cleanFrom_cons_of_kept (kept : IsKept c) (inRun : Bool) (rest : List Char) :
    cleanFrom inRun (c :: rest) = c :: cleanFrom false rest := by
  rw [cleanFrom, if_pos (isBranchChar_iff.mpr kept)]

theorem cleanFrom_true_cons (unfit : ¬ IsKept c) (rest : List Char) :
    cleanFrom true (c :: rest) = cleanFrom true rest := by
  rw [cleanFrom, if_neg (mt isBranchChar_iff.mp unfit), if_pos rfl]

theorem cleanFrom_false_cons (unfit : ¬ IsKept c) (rest : List Char) :
    cleanFrom false (c :: rest) = '-' :: cleanFrom true rest := by
  rw [cleanFrom, if_neg (mt isBranchChar_iff.mp unfit), if_neg Bool.false_ne_true]

/-- Once a run is under way, the rest of it is passed over. -/
theorem cleanFrom_true_append {run : List Char} (unfit : ∀ c ∈ run, ¬ IsKept c)
    (maximal : ∀ c ∈ branch.head?, IsKept c) :
    cleanFrom true (run ++ branch) = cleanFrom false branch := by
  induction run with
  | nil =>
      cases branch with
      | nil => rfl
      | cons first branch =>
          have kept := maximal first rfl
          rw [List.nil_append, cleanFrom_cons_of_kept kept, cleanFrom_cons_of_kept kept]
  | cons c run ih =>
      rw [List.forall_mem_cons] at unfit
      rw [List.cons_append, cleanFrom_true_cons unfit.1, ih unfit.2]

theorem Collapses.cleanBranch_eq (collapses : Collapses branch text) :
    cleanBranch branch = text := by
  induction collapses with
  | nil => rfl
  | keep kept rest ih => rw [cleanBranch, cleanFrom_cons_of_kept kept, ← cleanBranch, ih]
  | @replace run branch text nonempty unfit maximal rest ih =>
      obtain ⟨c, run, rfl⟩ := List.exists_cons_of_ne_nil nonempty
      rw [List.forall_mem_cons] at unfit
      rw [cleanBranch, List.cons_append, cleanFrom_false_cons unfit.1,
        cleanFrom_true_append unfit.2 maximal, ← cleanBranch, ih]

/-- A text is collapsed from its beginning, and also from the end of a run that is under way. -/
theorem collapses_cleanFrom (branch : List Char) :
    Collapses branch (cleanFrom false branch) ∧
      ∃ run rest, branch = run ++ rest ∧ (∀ c ∈ run, ¬ IsKept c) ∧
        (∀ c ∈ rest.head?, IsKept c) ∧ Collapses rest (cleanFrom true branch) := by
  induction branch with
  | nil => exact ⟨.nil, [], [], rfl, by simp, by simp, .nil⟩
  | cons c branch ih =>
      obtain ⟨fromStart, run, rest, rfl, unfit, maximal, fromRun⟩ := ih
      by_cases kept : IsKept c
      · rw [cleanFrom_cons_of_kept kept, cleanFrom_cons_of_kept kept]
        have whole := Collapses.keep kept fromStart
        exact ⟨whole, [], _, rfl, by simp, by simpa using kept, whole⟩
      · have longer : ∀ d ∈ c :: run, ¬ IsKept d := List.forall_mem_cons.mpr ⟨kept, unfit⟩
        rw [cleanFrom_false_cons kept, cleanFrom_true_cons kept]
        exact ⟨.replace (List.cons_ne_nil c run) longer maximal fromRun, c :: run, rest, rfl,
          longer, maximal, fromRun⟩

theorem cleanBranch_eq_iff : cleanBranch branch = text ↔ Collapses branch text := by
  constructor
  · rintro rfl
    exact (collapses_cleanFrom branch).1
  · exact Collapses.cleanBranch_eq

/-- A hyphen of the branch is no part of a run. -/
example : cleanBranch "/x-: -y".toList = "-x---y".toList := by decide

/-! ## Clean texts -/

theorem Collapses.kept (collapses : Collapses branch text) : ∀ c ∈ text, IsKept c := by
  induction collapses with
  | nil => simp
  | keep kept rest ih => exact List.forall_mem_cons.mpr ⟨kept, ih⟩
  | replace nonempty unfit maximal rest ih => exact List.forall_mem_cons.mpr ⟨isKept_hyphen, ih⟩

/-- Nothing that is kept changes its place among what is kept. -/
theorem Collapses.sublist (collapses : Collapses branch text) :
    (branch.filter isBranchChar).Sublist text := by
  induction collapses with
  | nil => exact .slnil
  | keep kept rest ih =>
      rw [List.filter_cons_of_pos (isBranchChar_iff.mpr kept)]
      exact ih.cons_cons _
  | @replace run branch text nonempty unfit maximal rest ih =>
      have nothing : run.filter isBranchChar = [] :=
        List.filter_eq_nil_iff.mpr fun c member => mt isBranchChar_iff.mp (unfit c member)
      rw [List.filter_append, nothing, List.nil_append]
      exact ih.cons _

theorem collapses_self (clean : ∀ c ∈ text, IsKept c) : Collapses text text := by
  induction text with
  | nil => exact .nil
  | cons c text ih =>
      rw [List.forall_mem_cons] at clean
      exact .keep clean.1 (ih clean.2)

/-! ## Joined parts -/

/-- A hyphen stands between the parts that are not empty. -/
theorem joinParts_eq (first second : List Char) :
    joinParts first second = ['-'].intercalate ([first, second].filter (!·.isEmpty)) := by
  cases first <;> cases second <;> simp [joinParts, List.intercalate]

theorem kept_joinParts {first second : List Char} (firstKept : ∀ c ∈ first, IsKept c)
    (secondKept : ∀ c ∈ second, IsKept c) : ∀ c ∈ joinParts first second, IsKept c := by
  rw [joinParts]
  split
  · exact secondKept
  · split
    · exact firstKept
    · intro c member
      rcases List.mem_append.mp member with before | behind
      · exact firstKept c before
      · rcases List.mem_cons.mp behind with rfl | after
        · exact isKept_hyphen
        · exact secondKept c after

theorem joinParts_nil_left (second : List Char) : joinParts [] second = second := rfl

theorem joinParts_nil_right (first : List Char) : joinParts first [] = first := by
  cases first <;> rfl

variable {tag other : Option String} {hash : String}

theorem smartDescriptor_of_tagged (tagged : tag.getD "" ≠ "") :
    smartDescriptor tag other hash = tag.getD "" := by
  rw [smartDescriptor]
  exact if_neg (mt String.isEmpty_iff.mp tagged)

theorem toList_smartDescriptor_of_untagged (untagged : tag.getD "" = "") :
    (smartDescriptor tag other hash).toList =
      joinParts (cleanBranch (other.getD "").toList) (hash.toList.take 7) := by
  have derived : smartDescriptor tag other hash =
      String.ofList (joinParts (cleanBranch (other.getD "").toList) (shortHash hash.toList)) :=
    if_pos (String.isEmpty_iff.mpr untagged)
  rw [derived, String.toList_ofList]
  rfl

/-- Cleaning a branch replaces each maximal run of unfit characters by one hyphen.  A commit is
described by its tag, or else by the clean branch and seven characters of the hash, with a hyphen
between the two only if both are there. -/
theorem cleanBranch_and_smartDescriptor :
    (∀ branch : List Char,
      (∀ text, cleanBranch branch = text ↔ Collapses branch text) ∧
      (∀ c ∈ cleanBranch branch, IsKept c) ∧
      (branch.filter isBranchChar).Sublist (cleanBranch branch) ∧
      cleanBranch (cleanBranch branch) = cleanBranch branch) ∧
    ∀ (tag branch : Option String) (hash : String),
      (tag.getD "" ≠ "" → smartDescriptor tag branch hash = tag.getD "") ∧
      (tag.getD "" = "" →
        (smartDescriptor tag branch hash).toList =
            ['-'].intercalate
              ([cleanBranch (branch.getD "").toList, hash.toList.take 7].filter (!·.isEmpty)) ∧
          ((∀ c ∈ hash.toList, IsKept c) →
            ∀ c ∈ (smartDescriptor tag branch hash).toList, IsKept c) ∧
          (branch.getD "" = "" →
            (smartDescriptor tag branch hash).toList = hash.toList.take 7) ∧
          (hash = "" →
            (smartDescriptor tag branch hash).toList = cleanBranch (branch.getD "").toList)) := by
  constructor
  · intro branch
    have collapses := cleanBranch_eq_iff.mp (rfl : cleanBranch branch = _)
    exact ⟨fun _ => cleanBranch_eq_iff, collapses.kept, collapses.sublist,
      (collapses_self collapses.kept).cleanBranch_eq⟩
  · intro tag branch hash
    refine ⟨smartDescriptor_of_tagged, fun untagged => ?_⟩
    rw [toList_smartDescriptor_of_untagged untagged]
    have collapses := cleanBranch_eq_iff.mp (rfl : cleanBranch (branch.getD "").toList = _)
    refine ⟨joinParts_eq _ _, fun fit => ?_, fun unnamed => ?_, ?_⟩
    · exact kept_joinParts collapses.kept fun c member => fit c (List.mem_of_mem_take member)
    · rw [unnamed]
      exact joinParts_nil_left _
    · rintro rfl
      exact joinParts_nil_right _

/-- A branch with an unfit character at its beginning and a run of them behind a hyphen. -/
theorem cleanBranch_and_smartDescriptor_detached :
    (none : Option String).getD "" = "" ∧ (∀ c ∈ "0123456789".toList, IsKept c) ∧
      ∀ c ∈ (smartDescriptor none (some "/x-: y") "0123456789").toList, IsKept c := by
  have untagged : (none : Option String).getD "" = "" := rfl
  have fit : ∀ c ∈ "0123456789".toList, IsKept c := List.all_iff_forall_prop.mp (by decide)
  have derived := (cleanBranch_and_smartDescriptor.2 none (some "/x-: y") "0123456789").2 untagged
  exact ⟨untagged, fit, derived.2.1 fit⟩

end Imprint
