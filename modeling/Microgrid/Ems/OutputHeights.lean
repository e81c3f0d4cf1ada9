import Microgrid.Ems.TrustCaps
import Microgrid.Foundation.CentroidMotion

/-!
# The heights of the output sets

Five output sets serve all 27 rules, so what the rule loop computes depends on five numbers
only: for each output set the strength of the strongest rule that answers it.
-/

namespace Microgrid.Ems

open FuzzyControl

/-- The keys of `_OUT_MFS`, in their order. -/
def outLabels : List OutLabel := [.zero, .low, .med, .high, .max]

/-- Every label is one of the five. -/
theorem mem_outLabels (label : OutLabel) : label ∈ outLabels := by
  cases label <;> decide

/-- The height at which the rules cut an output set off. -/
def height (e p t : ℚ) (label : OutLabel) : ℚ :=
  peak ((rules.filter fun rule => rule.outLabel = label).map (evaluated e p t))

/-- The output sets, cut off at given heights and united. -/
def clippedAt (heights : OutLabel → ℚ) : ℚ → ℚ := clipped outLabels outDegree heights

/-- The rule loop computes the union of the output sets at their heights. -/
theorem union_eq_clippedAt (e p t : ℚ) :
    aggregate (rules.map (evaluated e p t)) = clippedAt (height e p t) := by
  funext y
  exact aggregate_grouped rules (strength e p t) Rule.outLabel outDegree outLabels
    (fun rule _ => mem_outLabels rule.outLabel) y

/-- On finite inputs the inference returns the centroid of this union. -/
theorem fuzzyInfer_heights (e p t : ℚ) : fuzzyInfer (.finite e) (.finite p) (.finite t)
    = .ok (.finite (centroid samples (clippedAt (height e p t)))) := by
  rw [fuzzyInfer_finite, union_eq_clippedAt]

end Microgrid.Ems
