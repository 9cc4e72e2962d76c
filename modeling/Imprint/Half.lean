/-!
# The two halves of a pair

Every language gets two texts: a declaration that names the fields, such as a header or a schema,
and a definition that binds them to values.
-/

namespace Imprint

/-- One of the two texts that are emitted for a language. -/
inductive Half where
  | declaration
  | definition
  deriving DecidableEq

/-- The name of a half in manifests and reports. -/
def Half.name : Half → String
  | .declaration => "declaration"
  | .definition => "definition"

/-- A value for each half. -/
structure Halves (α : Type u) where
  declaration : α
  definition : α
  deriving DecidableEq

namespace Halves

/-- The value of one half. -/
def get (values : Halves α) : Half → α
  | .declaration => values.declaration
  | .definition => values.definition

end Halves

end Imprint
