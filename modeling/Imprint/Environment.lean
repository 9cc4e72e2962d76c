/-!
# Environments

The variables that a program is started with.  Files can provide further ones, but never change
those that are there.
-/

namespace Imprint

/-- Variables with their values; of several with one name the first counts. -/
abbrev Environment := List (String × String)

namespace Environment

/-- The value of a variable. -/
def get? (environment : Environment) (name : String) : Option String := environment.lookup name

/-- The environment with a value for a variable that has none yet. -/
def provide (environment : Environment) (name value : String) : Environment :=
  if (environment.get? name).isSome then environment else environment ++ [(name, value)]

@[simp]
theorem provide_of_isSome {environment : Environment} {name : String} (value : String)
    (known : (environment.get? name).isSome) : environment.provide name value = environment := by
  simp [provide, known]

end Environment

end Imprint
