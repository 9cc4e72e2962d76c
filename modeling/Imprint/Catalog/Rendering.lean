import Imprint.Catalog

/-!
# Rendering several languages

One record rendered in several languages.  A template that is selected more than once gives one
pair, in the place of the first selector.
-/

namespace Imprint

/-- The pairs without those whose language is that of an earlier one. -/
def distinctPairs : List Pair → List Pair
  | [] => []
  | pair :: pairs => pair :: (distinctPairs pairs).filter fun other => other.language != pair.language

namespace Catalog

/-- The pairs of several languages, which may have to pass their own check.  The first language
that fails is reported. -/
def renderAll (catalog : Catalog) (registry : Registry) (checked : Bool) (record : Record)
    (selectors : List String) : Except Error (List Pair) := do
  let pairs ← selectors.mapM fun selector =>
    if checked then catalog.renderChecked registry record selector
    else catalog.render registry record selector
  return distinctPairs pairs

end Catalog

end Imprint
