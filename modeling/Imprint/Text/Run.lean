/-!
# Runs of code points

Sets of characters are given as lists of runs.  A run takes every `step`-th code point from
`first` to `last`; alternating capital and small letters need a step of two, all other sets a
step of one.
-/

namespace Imprint.Text

/-- Every `step`-th number from `first` to `last`. -/
structure Run where
  first : Nat
  last : Nat
  step : Nat
  deriving DecidableEq

namespace Run

/-- Whether a code point lies on the run. -/
def contains (run : Run) (code : Nat) : Bool :=
  run.first ≤ code && code ≤ run.last && (code - run.first) % run.step == 0

/-- Whether a code point lies on one of the runs. -/
def listed (runs : List Run) (code : Nat) : Bool :=
  runs.any (·.contains code)

@[simp]
theorem listed_nil (code : Nat) : listed [] code = false := rfl

@[simp]
theorem listed_cons (run : Run) (runs : List Run) (code : Nat) :
    listed (run :: runs) code = (run.contains code || listed runs code) := rfl

end Run

end Imprint.Text
