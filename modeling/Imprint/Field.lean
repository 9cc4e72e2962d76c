/-!
# The five fields of a build record

A build is described by five facts.  Their declaration order is the canonical order, which every
skeleton, every pair of files and every report follows.  `PerField` holds one value for each.
-/

namespace Imprint

/-- Which of its two names the commit descriptor is written under. -/
inductive DescriptorName where
  | smart
  | tagOrBranch
  deriving DecidableEq

/-- One of the five facts about a build, in canonical order. -/
inductive Field where
  | version
  | commitHash
  | commitDate
  | commitDescriptor
  | buildDate
  deriving DecidableEq

namespace DescriptorName

/-- The name of a descriptor name in settings. -/
def name : DescriptorName → String
  | .smart => "smart"
  | .tagOrBranch => "tag_or_branch"

/-- The words after `commit` in the spelling of the descriptor field. -/
def words : DescriptorName → List String
  | .smart => ["smart"]
  | .tagOrBranch => ["tag", "or", "branch"]

end DescriptorName

namespace Field

/-- The fields in canonical order. -/
def all : List Field := [.version, .commitHash, .commitDate, .commitDescriptor, .buildDate]

@[simp]
theorem mem_all (field : Field) : field ∈ all := by
  cases field <;> decide

/-- The name of a field in skeletons and reports. -/
def name : Field → String
  | .version => "Version"
  | .commitHash => "CommitHash"
  | .commitDate => "CommitDate"
  | .commitDescriptor => "CommitDescriptor"
  | .buildDate => "BuildDate"

/-- The position of a field in canonical order. -/
def index : Field → Nat
  | .version => 0
  | .commitHash => 1
  | .commitDate => 2
  | .commitDescriptor => 3
  | .buildDate => 4

/-- The canonical order is the order of the positions. -/
theorem pairwise_all : all.Pairwise fun first second => first.index < second.index := by
  decide

/-- What holds of the fields as they are listed holds of any two fields in canonical order. -/
theorem of_pairwise_all {related : Field → Field → Prop} (pairwise : all.Pairwise related)
    {first second : Field} (less : first.index < second.index) : related first second := by
  cases first <;> cases second <;> simp_all [all, index]

/-- The lowercase words that a field is spelled with. -/
def words (descriptor : DescriptorName) : Field → List String
  | .version => ["version"]
  | .commitHash => ["commit", "hash"]
  | .commitDate => ["commit", "date"]
  | .commitDescriptor => "commit" :: descriptor.words
  | .buildDate => ["build", "date"]

/-- The words of a field joined by underscores. -/
def baseName (descriptor : DescriptorName) (field : Field) : String :=
  "_".intercalate (field.words descriptor)

/-- The field that a placeholder names.  Only the exact names are known, and two older ones for
the descriptor. -/
def ofPlaceholder? : String → Option Field
  | "Version" => some .version
  | "CommitHash" => some .commitHash
  | "CommitDate" => some .commitDate
  | "CommitDescriptor" | "CommitSmart" | "CommitTagOrBranch" => some .commitDescriptor
  | "BuildDate" => some .buildDate
  | _ => none

@[simp]
theorem ofPlaceholder?_name (field : Field) : ofPlaceholder? field.name = some field := by
  cases field <;> rfl

theorem name_injective {first second : Field} (same : first.name = second.name) :
    first = second := by
  have := congrArg ofPlaceholder? same
  simpa using this

end Field

/-- One value for each field. -/
structure PerField (α : Type u) where
  version : α
  commitHash : α
  commitDate : α
  commitDescriptor : α
  buildDate : α
  deriving DecidableEq

namespace PerField

/-- The value of a field. -/
def get (values : PerField α) : Field → α
  | .version => values.version
  | .commitHash => values.commitHash
  | .commitDate => values.commitDate
  | .commitDescriptor => values.commitDescriptor
  | .buildDate => values.buildDate

/-- The values that a function gives to the fields. -/
def ofFunction (value : Field → α) : PerField α where
  version := value .version
  commitHash := value .commitHash
  commitDate := value .commitDate
  commitDescriptor := value .commitDescriptor
  buildDate := value .buildDate

/-- The same values except for one field. -/
def set (values : PerField α) (field : Field) (value : α) : PerField α :=
  ofFunction fun other => if other = field then value else values.get other

/-- Every field with its value, in canonical order. -/
def entries (values : PerField α) : List (Field × α) :=
  Field.all.map fun field => (field, values.get field)

/-- One value for all fields. -/
def const (value : α) : PerField α := ofFunction fun _ => value

@[simp]
theorem get_ofFunction (value : Field → α) (field : Field) :
    (ofFunction value).get field = value field := by
  cases field <;> rfl

@[simp]
theorem get_set (values : PerField α) (field other : Field) (value : α) :
    (values.set field value).get other = if other = field then value else values.get other := by
  simp [set]

@[simp]
theorem get_const (value : α) (field : Field) : (const value).get field = value := by
  simp [const]

theorem ext_get {first second : PerField α} (same : ∀ field, first.get field = second.get field) :
    first = second := by
  cases first
  cases second
  have version := same .version
  have commitHash := same .commitHash
  have commitDate := same .commitDate
  have commitDescriptor := same .commitDescriptor
  have buildDate := same .buildDate
  simp_all [get]

@[simp]
theorem map_fst_entries (values : PerField α) : values.entries.map Prod.fst = Field.all := by
  simp [entries, Function.comp_def]

end PerField

/-- The five facts about one build. -/
abbrev Record := PerField String

namespace Record

/-- The record without any fact. -/
def empty : Record := PerField.const ""

end Record

end Imprint
