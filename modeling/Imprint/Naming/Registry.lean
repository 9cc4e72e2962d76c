import Imprint.Naming.CaseRule
import Imprint.Naming.Words

/-!
# Spellings

A registry says how each convention joins words and which name the descriptor goes by.  It spells
the five fields of a template; names pinned by the template come first, and two fields never share
a name.
-/

namespace Imprint

/-- The case rules in force and the name of the descriptor field. -/
structure Registry where
  rule : Convention → Option CaseRule
  descriptor : DescriptorName

/-- The names of the five fields under one convention. -/
structure Spellings where
  convention : Convention
  names : PerField String
  deriving DecidableEq

/-- Names that are pinned whatever the convention says. -/
abbrev Overrides := PerField (Option String)

/-- Pins nothing. -/
def Overrides.none : Overrides := PerField.const Option.none

namespace Spellings

/-- The field with exactly the given name. -/
def fieldOf? (spellings : Spellings) (token : String) : Option Field :=
  Field.all.find? fun field => spellings.names.get field == token

/-- The name of a field. -/
def get (spellings : Spellings) (field : Field) : String := spellings.names.get field

/-- Different fields have different names. -/
def Distinct (spellings : Spellings) : Prop :=
  ∀ first second, spellings.get first = spellings.get second → first = second

end Spellings

namespace Registry

/-- The registry without rules. -/
def empty : Registry := ⟨fun _ => none, .smart⟩

/-- The registry in which every convention has its defining rule. -/
def standard (descriptor : DescriptorName) : Registry :=
  ⟨fun convention => some (CaseRule.standard convention), descriptor⟩

/-- The registry with another rule for one convention. -/
def withRule (registry : Registry) (convention : Convention) (rule : CaseRule) : Registry :=
  { registry with
    rule := fun other => if other = convention then some rule else registry.rule other }

/-- The conventions that have a rule. -/
def conventions (registry : Registry) : List Convention :=
  Convention.all.filter fun convention => (registry.rule convention).isSome

/-- The spelling of a field under a convention. -/
def spell (registry : Registry) (field : Field) (convention : Convention) : Except Error String :=
  match registry.rule convention with
  | some rule => .ok (rule.apply (field.words registry.descriptor))
  | none => .error (.unsupportedConvention convention.name)

/-- The spelling of a field under a convention, both given by name. -/
def spellNamed (registry : Registry) (field convention : String) : Except Error String := do
  let field ← Field.parse field
  let convention ← Convention.parse convention
  registry.spell field convention

/-- The name of a field, pinned or spelled. -/
def pick (registry : Registry) (convention : Convention) (overrides : Overrides)
    (field : Field) : Except Error String :=
  match overrides.get field with
  | some pinned => .ok pinned
  | none => registry.spell field convention

/-- The name of a field next to the names of the fields before it, from which it must differ. -/
def assign (registry : Registry) (language : String) (convention : Convention)
    (overrides : Overrides) (earlier : List (Field × String)) (field : Field) :
    Except Error (Field × String) := do
  let spelling ← registry.pick convention overrides field
  match earlier.find? (·.2 == spelling) with
  | some (first, _) => .error (.spellingCollision language spelling first field)
  | none => .ok (field, spelling)

/-- The names of the five fields for a language.  Fields are named in canonical order, and the
first that cannot be spelled or takes an earlier field's name is the error. -/
def spellings (registry : Registry) (language : String) (convention : Convention)
    (overrides : Overrides) : Except Error Spellings := do
  let assign := registry.assign language convention overrides
  let version ← assign [] .version
  let commitHash ← assign [version] .commitHash
  let commitDate ← assign [version, commitHash] .commitDate
  let commitDescriptor ← assign [version, commitHash, commitDate] .commitDescriptor
  let buildDate ← assign [version, commitHash, commitDate, commitDescriptor] .buildDate
  return ⟨convention, version.2, commitHash.2, commitDate.2, commitDescriptor.2, buildDate.2⟩

end Registry

end Imprint
