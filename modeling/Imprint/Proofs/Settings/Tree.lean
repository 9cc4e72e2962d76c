import Imprint.Settings.Reading

/-!
# One place of a tree

A layer changes a tree entry by entry.  An entry for one setting leaves all others alone, and the
entries for other places leave it alone, whatever they are.  So two trees that differ in one
setting still differ in nothing else when the same layer has been laid over both.
-/

namespace Imprint.Settings

open Imprint.Settings.Tree (changeMember memberOr)

namespace Tree

/-- What is there under a key of a table; another value has nothing. -/
def member (tree : Tree) (key : String) : Tree := (tree.members.lookup key).getD .absent

theorem lookup_changeMember (name key : String) (change : Tree → Tree)
    (members : List (String × Tree)) :
    (changeMember key change members).lookup name =
      if name = key then some (change ((members.lookup key).getD .absent))
      else members.lookup name := by
  induction members with
  | nil =>
      by_cases same : name = key
      · simp [changeMember, same]
      · simp [changeMember, List.lookup_cons, same, beq_false_of_ne same]
  | cons entry members ih =>
      obtain ⟨other, value⟩ := entry
      rw [changeMember]
      by_cases found : other = key
      · subst found
        rw [if_pos rfl]
        by_cases same : name = other
        · simp [same]
        · simp [List.lookup_cons, same, beq_false_of_ne same]
      · rw [if_neg found, List.lookup_cons, List.lookup_cons, List.lookup_cons, ih,
          beq_false_of_ne (Ne.symm found)]
        by_cases same : name = other
        · subst same
          simp [found]
        · simp [beq_false_of_ne same]

/-- A value that is no table replaces what was there. -/
theorem merge_of_leaf {value : Tree} (leaf : ∀ members, value ≠ .branch members) (old : Tree) :
    old.merge value = value := by
  rw [merge]
  exact leaf

end Tree

/-! ## Members that differ in one key -/

/-- Members are others with a value under one key. -/
structure Sets (key : String) (value : Tree) (others members : List (String × Tree)) : Prop where
  here : members.lookup key = some value
  elsewhere : ∀ other, other ≠ key → members.lookup other = others.lookup other

/-- A change of a member sets it. -/
theorem sets_changeMember (key : String) (change : Tree → Tree) (members : List (String × Tree)) :
    Sets key (change ((members.lookup key).getD .absent)) members
      (changeMember key change members) where
  here := (Tree.lookup_changeMember key key change members).trans (if_pos rfl)
  elsewhere other different :=
    (Tree.lookup_changeMember other key change members).trans (if_neg different)

namespace Sets

variable {key : String} {value : Tree} {others members : List (String × Tree)} {α : Type}

/-- The same change of both members keeps the difference. -/
theorem changeMember_self (sets : Sets key value others members) (change : Tree → Tree) :
    Sets key (change value) (changeMember key change others) (changeMember key change members) where
  here := by
    rw [Tree.lookup_changeMember, if_pos rfl, sets.here, Option.getD_some]
  elsewhere other different := by
    rw [Tree.lookup_changeMember, Tree.lookup_changeMember, if_neg different, if_neg different,
      sets.elsewhere other different]

/-- The same change of another member on both sides keeps the difference. -/
theorem changeMember_other (sets : Sets key value others members) {name : String}
    (apart : name ≠ key) (change : Tree → Tree) :
    Sets key value (changeMember name change others) (changeMember name change members) where
  here := by
    rw [Tree.lookup_changeMember, if_neg (Ne.symm apart), sets.here]
  elsewhere other different := by
    rw [Tree.lookup_changeMember, Tree.lookup_changeMember, sets.elsewhere name apart,
      sets.elsewhere other different]

theorem memberOr_here (sets : Sets key value others members) (read : Tree → Option α)
    (fallback : α) : memberOr members key read fallback = read value := by
  rw [memberOr, sets.here]

theorem memberOr_elsewhere (sets : Sets key value others members) {other : String}
    (different : other ≠ key) (read : Tree → Option α) (fallback : α) :
    memberOr members other read fallback = memberOr others other read fallback := by
  rw [memberOr, memberOr, sets.elsewhere other different]

end Sets

/-! ## Trees that differ in one setting -/

/-- A path that leads neither to a setting of a section, nor to a part of it, nor to the section
as a whole or to an item of it. -/
inductive IsApart (heading key : String) : List Step → Prop
  | heading {other : String} {path : List Step} (different : other ≠ heading) :
      IsApart heading key (.member other :: path)
  | key {other : String} {path : List Step} (different : other ≠ key) :
      IsApart heading key (.member heading :: .member other :: path)

/-- A tree is another one with a value for one setting.  A section that has been no table consists
of that setting alone. -/
def Overrides (heading key : String) (value base tree : Tree) : Prop :=
  ∃ members, Sets heading (.branch members) base.members tree.members ∧
    Sets key value (base.member heading).members members

namespace Overrides

variable {heading key : String} {value base tree : Tree}

/-- An entry for a setting overrides it. -/
theorem update_self (heading key : String) (value tree : Tree) :
    Overrides heading key value tree
      (tree.update (fun _ => value) [.member heading, .member key]) :=
  ⟨changeMember key (fun _ => value) (tree.member heading).members,
    sets_changeMember heading (Tree.update (fun _ => value) [.member key]) tree.members,
    sets_changeMember key (fun _ => value) (tree.member heading).members⟩

/-- A change at a path that is apart from the setting keeps the difference. -/
theorem update (overrides : Overrides heading key value base tree) {path : List Step}
    (apart : IsApart heading key path) (change : Tree → Tree) :
    Overrides heading key value (base.update change path) (tree.update change path) := by
  obtain ⟨members, place, setting⟩ := overrides
  cases apart with
  | @heading name path different =>
      refine ⟨members, place.changeMember_other different _, ?_⟩
      have kept : (base.update change (.member name :: path)).member heading =
          base.member heading := by
        rw [Tree.member, Tree.update, Tree.members, Tree.lookup_changeMember,
          if_neg (Ne.symm different), Tree.member]
      rwa [kept]
  | @key name path different =>
      refine ⟨_, place.changeMember_self (Tree.update change (.member name :: path)), ?_⟩
      have changed : (base.update change (.member heading :: .member name :: path)).member heading =
          .branch (changeMember name (Tree.update change path) (base.member heading).members) := by
        rw [Tree.member, Tree.update, Tree.members, Tree.lookup_changeMember, if_pos rfl,
          Option.getD_some, Tree.update, Tree.member]
      rw [changed]
      exact setting.changeMember_other different _

/-- A layer whose entries are all apart from the setting keeps the difference. -/
theorem addLayer (overrides : Overrides heading key value base tree) {layer : Layer}
    (apart : ∀ entry ∈ layer, IsApart heading key (pathOf entry.1)) :
    Overrides heading key value (Settings.addLayer base layer) (Settings.addLayer tree layer) := by
  induction layer generalizing base tree with
  | nil => exact overrides
  | cons entry layer ih =>
      rw [List.forall_mem_cons] at apart
      exact ih (overrides.update apart.1 _) apart.2

/-- An entry for a setting overrides it if the entries behind it are apart from the setting. -/
theorem of_layer {entry : String} (names : pathOf entry = [.member heading, .member key])
    (leaf : ∀ members, value ≠ .branch members) (before : Layer) {after : Layer}
    (apart : ∀ other ∈ after, IsApart heading key (pathOf other.1)) (tree : Tree) :
    Overrides heading key value (Settings.addLayer tree (before ++ after))
      (Settings.addLayer tree (before ++ (entry, value) :: after)) := by
  have replaced (old : Tree) : addEntry old (entry, value) =
      old.update (fun _ => value) [.member heading, .member key] := by
    rw [addEntry, names]
    exact congrArg (fun change => old.update change _) (funext (Tree.merge_of_leaf leaf))
  rw [Settings.addLayer, Settings.addLayer, List.foldl_append, List.foldl_append, List.foldl_cons,
    replaced]
  exact (update_self heading key value _).addLayer apart

/-- Two trees that override one setting of the same tree differ in its value only. -/
theorem of_same {other : Tree} {changed : Tree} (first : Overrides heading key other base changed)
    (second : Overrides heading key value base tree) :
    Overrides heading key value changed tree := by
  obtain ⟨others, place, setting⟩ := first
  obtain ⟨members, newPlace, newSetting⟩ := second
  have content : (changed.member heading).members = others := by
    rw [Tree.member, place.here, Option.getD_some, Tree.members]
  refine ⟨members, ⟨newPlace.here, fun name different => ?_⟩, newSetting.here,
    fun name different => ?_⟩
  · rw [newPlace.elsewhere name different, place.elsewhere name different]
  · rw [content, newSetting.elsewhere name different, setting.elsewhere name different]

end Overrides

end Imprint.Settings
