import Imprint.Naming.Registry
import Imprint.Proofs.Except
import Mathlib.Data.List.Nodup

/-!
# Spelling the fields

The registry spells five names exactly if each of them can be picked and they can be told apart.
The names of the standard registry are written out here for every convention.
-/

namespace Imprint

namespace Registry

variable {registry : Registry} {convention : Convention} {overrides : Overrides}

/-- A field takes the name that is picked for it if no earlier field has that name. -/
theorem assign_eq_ok {language : String} {earlier : List (Field × String)} {field : Field}
    {spelling : String} (picked : registry.pick convention overrides field = .ok spelling)
    (fresh : ∀ entry ∈ earlier, entry.2 ≠ spelling) :
    registry.assign language convention overrides earlier field = .ok (field, spelling) := by
  have unused : earlier.find? (·.2 == spelling) = none := by
    rw [List.find?_eq_none]
    intro entry member same
    exact fresh entry member (beq_iff_eq.mp same)
  simp only [assign, picked, bind, Except.bind, unused]

/-- Five different names are spelled as they are picked. -/
theorem spellings_eq_ok (language : String) {names : PerField String}
    (picked : ∀ field, registry.pick convention overrides field = .ok (names.get field))
    (distinct : ∀ first second, names.get first = names.get second → first = second) :
    registry.spellings language convention overrides = .ok ⟨convention, names⟩ := by
  have assigned (earlier : List Field) (field : Field) (unseen : field ∉ earlier) :
      registry.assign language convention overrides
          (earlier.map fun other => (other, names.get other)) field =
        .ok (field, names.get field) := by
    refine assign_eq_ok (picked field) fun entry member same => ?_
    obtain ⟨other, seen, rfl⟩ := List.mem_map.mp member
    exact unseen (distinct other field same ▸ seen)
  have version := assigned [] .version (by decide)
  have commitHash := assigned [.version] .commitHash (by decide)
  have commitDate := assigned [.version, .commitHash] .commitDate (by decide)
  have commitDescriptor :=
    assigned [.version, .commitHash, .commitDate] .commitDescriptor (by decide)
  have buildDate :=
    assigned [.version, .commitHash, .commitDate, .commitDescriptor] .buildDate (by decide)
  simp only [List.map_cons, List.map_nil] at *
  simp only [spellings, bind, Except.bind, version, commitHash, commitDate, commitDescriptor,
    buildDate]
  rfl

/-- A name that is assigned to a field is the one that is picked, and no earlier field has it. -/
theorem of_assign_eq_ok {language : String} {earlier : List (Field × String)} {field : Field}
    {entry : Field × String}
    (assigned : registry.assign language convention overrides earlier field = .ok entry) :
    entry.1 = field ∧ registry.pick convention overrides field = .ok entry.2 ∧
      ∀ other ∈ earlier, other.2 ≠ entry.2 := by
  rw [assign, bind_eq_ok_iff] at assigned
  obtain ⟨spelling, picked, assigned⟩ := assigned
  cases used : earlier.find? (·.2 == spelling) with
  | some first =>
      rw [used] at assigned
      contradiction
  | none =>
      rw [used] at assigned
      cases assigned
      rw [List.find?_eq_none] at used
      exact ⟨rfl, picked, fun other member same => used other member (beq_iff_eq.mpr same)⟩

/-- Names that are spelled are the ones that are picked, and no two fields share one. -/
theorem of_spellings_eq_ok {language : String} {names : Spellings}
    (spelled : registry.spellings language convention overrides = .ok names) :
    names.convention = convention ∧
      (∀ field, registry.pick convention overrides field = .ok (names.get field)) ∧
      names.Distinct := by
  simp only [Registry.spellings, bind_eq_ok_iff] at spelled
  obtain ⟨version, first, commitHash, second, commitDate, third, commitDescriptor, fourth,
    buildDate, fifth, done⟩ := spelled
  cases done
  replace first := (of_assign_eq_ok first).2
  replace second := (of_assign_eq_ok second).2
  replace third := (of_assign_eq_ok third).2
  replace fourth := (of_assign_eq_ok fourth).2
  replace fifth := (of_assign_eq_ok fifth).2
  refine ⟨rfl, fun field => ?_, ?_⟩
  · cases field with
    | version => exact first.1
    | commitHash => exact second.1
    | commitDate => exact third.1
    | commitDescriptor => exact fourth.1
    | buildDate => exact fifth.1
  · let entries := [version, commitHash, commitDate, commitDescriptor, buildDate]
    have apart : (entries.map Prod.snd).Nodup := by
      simp only [List.forall_mem_cons] at second third fourth fifth
      simp [entries, second, third, fourth, fifth]
    intro one other same
    exact List.inj_on_of_nodup_map (l := Field.all) apart one.mem_all other.mem_all same

end Registry

/-! ## The standard names -/

/-- One of two names, by the name of the descriptor. -/
def DescriptorName.choose (descriptor : DescriptorName) (smart tagOrBranch : α) : α :=
  match descriptor with
  | .smart => smart
  | .tagOrBranch => tagOrBranch

/-- The names of the fields under the standard rule of a convention. -/
def standardNames (descriptor : DescriptorName) : Convention → PerField String
  | .snake =>
      ⟨"version", "commit_hash", "commit_date",
        descriptor.choose "commit_smart" "commit_tag_or_branch", "build_date"⟩
  | .camel =>
      ⟨"version", "commitHash", "commitDate",
        descriptor.choose "commitSmart" "commitTagOrBranch", "buildDate"⟩
  | .pascal =>
      ⟨"Version", "CommitHash", "CommitDate",
        descriptor.choose "CommitSmart" "CommitTagOrBranch", "BuildDate"⟩
  | .kebab =>
      ⟨"version", "commit-hash", "commit-date",
        descriptor.choose "commit-smart" "commit-tag-or-branch", "build-date"⟩
  | .screaming =>
      ⟨"VERSION", "COMMIT_HASH", "COMMIT_DATE",
        descriptor.choose "COMMIT_SMART" "COMMIT_TAG_OR_BRANCH", "BUILD_DATE"⟩

theorem spell_standard (descriptor : DescriptorName) (convention : Convention) (field : Field) :
    (Registry.standard descriptor).spell field convention =
      .ok ((standardNames descriptor convention).get field) := by
  cases convention <;> cases descriptor <;> cases field <;> rfl

/-- Every standard name is read as the name of its field. -/
theorem resolve?_standardNames (descriptor : DescriptorName) (convention : Convention)
    (field : Field) :
    Field.resolve? ((standardNames descriptor convention).get field) = some field := by
  cases convention <;> cases descriptor <;> cases field <;> decide +kernel

theorem standardNames_injective (descriptor : DescriptorName) (convention : Convention)
    (first second : Field)
    (same : (standardNames descriptor convention).get first =
      (standardNames descriptor convention).get second) : first = second := by
  have resolved := congrArg Field.resolve? same
  rw [resolve?_standardNames, resolve?_standardNames] at resolved
  exact Option.some.inj resolved

theorem pick_none_standard (descriptor : DescriptorName) (convention : Convention)
    (field : Field) :
    (Registry.standard descriptor).pick convention Overrides.none field =
      .ok ((standardNames descriptor convention).get field) := by
  rw [Registry.pick, Overrides.none, PerField.get_const]
  exact spell_standard descriptor convention field

/-- Without pinned names every convention can be spelled, for any language. -/
theorem spellings_none_standard (descriptor : DescriptorName) (language : String)
    (convention : Convention) :
    (Registry.standard descriptor).spellings language convention Overrides.none =
      .ok ⟨convention, standardNames descriptor convention⟩ :=
  Registry.spellings_eq_ok language (pick_none_standard descriptor convention)
    (standardNames_injective descriptor convention)

end Imprint
