import Mathlib.Tactic.NormNum
import Microgrid.Foundation.FuzzyControl
import Microgrid.Foundation.PythonValues

/-!
# The fuzzy inference of the energy management

The membership functions, the rule table and `_fuzzy_infer` of the coordinator. The
functions are defined on every `float`; a division whose divisor is zero raises, which
NaN reaches on the two trapezoids that end in a vertical edge.

On finite inputs the sampled loops compute the centroid of clipped output sets
(`fuzzyInfer_finite`), and nothing raises.
-/

namespace Microgrid.Ems

open PythonValues FuzzyControl

/-- `V_NOMINAL`. -/
def vNominal : ℚ := 12

/-- `_MIN_SP`. -/
def minSp : ℚ := 0

/-- `_MAX_SP`. -/
def maxSp : ℚ := 100

/-- `_DEFAULT`. -/
def defaultSp : ℚ := 50

/-- `_trimf`. -/
def trimf (x : PyFloat) (a b c : ℚ) : Except PyException PyFloat :=
  if x.le (.finite a) || PyFloat.le (.finite c) x then .ok (.finite 0)
  else if x.le (.finite b) then (x.sub (.finite a)).div (.finite (b - a))
  else (PyFloat.sub (.finite c) x).div (.finite (c - b))

/-- `_trapf`. -/
def trapf (x : PyFloat) (a b c d : ℚ) : Except PyException PyFloat :=
  if x.le (.finite a) || PyFloat.le (.finite d) x then .ok (.finite 0)
  else if PyFloat.le (.finite b) x && x.le (.finite c) then .ok (.finite 1)
  else if x.lt (.finite b) then (x.sub (.finite a)).div (.finite (b - a))
  else (PyFloat.sub (.finite d) x).div (.finite (d - c))

/-- `_vbe_low`. -/
def vbeLow (x : PyFloat) := trapf x (-3) (-3) (-8 / 10) (-2 / 10)

/-- `_vbe_med`. -/
def vbeMed (x : PyFloat) := trimf x (-8 / 10) 0 (8 / 10)

/-- `_vbe_high`. -/
def vbeHigh (x : PyFloat) := trapf x (2 / 10) (8 / 10) 3 3

/-- `_pd_low`. -/
def pdLow (x : PyFloat) := trapf x (-10) 0 20 40

/-- `_pd_med`. -/
def pdMed (x : PyFloat) := trimf x 20 50 80

/-- `_pd_high`. -/
def pdHigh (x : PyFloat) := trapf x 60 80 150 150

/-- `_tr_untrusted`. -/
def trUntrusted (x : PyFloat) := trapf x (-1 / 10) 0 (20 / 100) (30 / 100)

/-- `_tr_degraded`. -/
def trDegraded (x : PyFloat) := trimf x (20 / 100) (50 / 100) (75 / 100)

/-- `_tr_trusted`. -/
def trTrusted (x : PyFloat) := trapf x (65 / 100) (80 / 100) 1 (11 / 10)

/-- The suffix that names a set of one of the two bus inputs. -/
inductive Level where
  | low
  | med
  | high
deriving DecidableEq

/-- The suffix that names a trust tier. -/
inductive Tier where
  | untrusted
  | degraded
  | trusted
deriving DecidableEq

/-- The keys of `_OUT_MFS`. -/
inductive OutLabel where
  | zero
  | low
  | med
  | high
  | max
deriving DecidableEq

/-- `_OUT_MFS`. -/
def outMfs : OutLabel → ℚ × ℚ × ℚ
  | .zero => (-5, 0, 10)
  | .low => (5, 15, 30)
  | .med => (25, 40, 60)
  | .high => (50, 70, 90)
  | .max => (80, 95, 105)

/-- `_out_mf`. -/
def outMf (y : PyFloat) (name : OutLabel) : Except PyException PyFloat :=
  trimf y (outMfs name).1 (outMfs name).2.1 (outMfs name).2.2

/-- The functions `_vbe_low`, `_vbe_med` and `_vbe_high`. -/
def vbe : Level → PyFloat → Except PyException PyFloat
  | .low => vbeLow
  | .med => vbeMed
  | .high => vbeHigh

/-- The functions `_pd_low`, `_pd_med` and `_pd_high`. -/
def pd : Level → PyFloat → Except PyException PyFloat
  | .low => pdLow
  | .med => pdMed
  | .high => pdHigh

/-- The functions `_tr_untrusted`, `_tr_degraded` and `_tr_trusted`. -/
def tr : Tier → PyFloat → Except PyException PyFloat
  | .untrusted => trUntrusted
  | .degraded => trDegraded
  | .trusted => trTrusted

/-- A row of the rule table. -/
structure Rule where
  trMf : Tier
  vbeMf : Level
  pdMf : Level
  outLabel : OutLabel
deriving DecidableEq

/-- `_RULES`. -/
def rules : List Rule := [
  ⟨.untrusted, .low, .low, .zero⟩,
  ⟨.untrusted, .low, .med, .zero⟩,
  ⟨.untrusted, .low, .high, .zero⟩,
  ⟨.untrusted, .med, .low, .zero⟩,
  ⟨.untrusted, .med, .med, .zero⟩,
  ⟨.untrusted, .med, .high, .zero⟩,
  ⟨.untrusted, .high, .low, .zero⟩,
  ⟨.untrusted, .high, .med, .zero⟩,
  ⟨.untrusted, .high, .high, .zero⟩,
  ⟨.degraded, .low, .low, .low⟩,
  ⟨.degraded, .low, .med, .med⟩,
  ⟨.degraded, .low, .high, .med⟩,
  ⟨.degraded, .med, .low, .zero⟩,
  ⟨.degraded, .med, .med, .low⟩,
  ⟨.degraded, .med, .high, .med⟩,
  ⟨.degraded, .high, .low, .zero⟩,
  ⟨.degraded, .high, .med, .zero⟩,
  ⟨.degraded, .high, .high, .low⟩,
  ⟨.trusted, .low, .low, .med⟩,
  ⟨.trusted, .low, .med, .high⟩,
  ⟨.trusted, .low, .high, .max⟩,
  ⟨.trusted, .med, .low, .low⟩,
  ⟨.trusted, .med, .med, .med⟩,
  ⟨.trusted, .med, .high, .high⟩,
  ⟨.trusted, .high, .low, .zero⟩,
  ⟨.trusted, .high, .med, .low⟩,
  ⟨.trusted, .high, .high, .med⟩]

/-- `universe_step`. -/
def universeStep : ℚ := 1 / 2

/-- `universe`, from 0 W to 100 W. -/
def samples : List ℚ :=
  (List.range ((maxSp / universeStep).floor.toNat + 1)).map fun (i : ℕ) => (i : ℚ) * universeStep

/-- One round of the rule loop of `_fuzzy_infer`, on the list `aggregated`. -/
def applyRule (vBusError pDemand trustScore : PyFloat) (aggregated : List PyFloat) (rule : Rule) :
    Except PyException (List PyFloat) := do
  let trDegree ← tr rule.trMf trustScore
  let vbeDegree ← vbe rule.vbeMf vBusError
  let pdDegree ← pd rule.pdMf pDemand
  let strength := (trDegree.pyMin vbeDegree).pyMin pdDegree
  if strength.le (.finite 0) then
    pure aggregated
  else
    (samples.zip aggregated).mapM fun (y, best) => do
      let clipped := strength.pyMin (← outMf (.finite y) rule.outLabel)
      pure (if best.lt clipped then clipped else best)

/-- `_fuzzy_infer`. -/
def fuzzyInfer (vBusError pDemand trustScore : PyFloat) : Except PyException PyFloat := do
  let aggregated ← rules.foldlM (applyRule vBusError pDemand trustScore)
    (samples.map fun _ => .finite 0)
  let numerator := ((samples.zip aggregated).map fun (y, degree) =>
    PyFloat.mul (.finite y) degree).foldl PyFloat.add (.finite 0)
  let denominator := aggregated.foldl PyFloat.add (.finite 0)
  if denominator = .finite 0 then pure (.finite 0) else numerator.div denominator

section Exact

/-- On a finite argument `_trimf` is the triangle, and does not divide by zero. -/
theorem trimf_finite (x a b c : ℚ) : trimf (.finite x) a b c = .ok (.finite (triangle a b c x)) := by
  unfold trimf triangle
  by_cases outside : x ≤ a ∨ c ≤ x
  · have flagged :
        (PyFloat.le (.finite x) (.finite a) || PyFloat.le (.finite c) (.finite x)) = true := by
      simpa using outside
    rw [if_pos flagged, if_pos outside]
  · have unflagged :
        ¬(PyFloat.le (.finite x) (.finite a) || PyFloat.le (.finite c) (.finite x)) = true := by
      simpa using outside
    obtain ⟨above, below⟩ := not_or.mp outside
    rw [if_neg unflagged, if_neg outside]
    by_cases left : x ≤ b
    · have width : b - a ≠ 0 := (sub_pos.mpr ((not_le.mp above).trans_le left)).ne'
      simp [left, PyFloat.div_finite width]
    · have width : c - b ≠ 0 := (sub_pos.mpr ((not_le.mp left).trans (not_le.mp below))).ne'
      simp [left, PyFloat.div_finite width]

/-- On a finite argument `_trapf` is the trapezoid, and does not divide by zero. -/
theorem trapf_finite (x a b c d : ℚ) :
    trapf (.finite x) a b c d = .ok (.finite (trapezoid a b c d x)) := by
  unfold trapf trapezoid
  by_cases outside : x ≤ a ∨ d ≤ x
  · have flagged :
        (PyFloat.le (.finite x) (.finite a) || PyFloat.le (.finite d) (.finite x)) = true := by
      simpa using outside
    rw [if_pos flagged, if_pos outside]
  · have unflagged :
        ¬(PyFloat.le (.finite x) (.finite a) || PyFloat.le (.finite d) (.finite x)) = true := by
      simpa using outside
    obtain ⟨above, below⟩ := not_or.mp outside
    rw [if_neg unflagged, if_neg outside]
    by_cases top : b ≤ x ∧ x ≤ c
    · simp [top]
    · have notTop :
          ¬(PyFloat.le (.finite b) (.finite x) && PyFloat.le (.finite x) (.finite c)) = true := by
        simpa using top
      rw [if_neg notTop, if_neg top]
      by_cases left : x < b
      · have width : b - a ≠ 0 := (sub_pos.mpr ((not_le.mp above).trans left)).ne'
        simp [left, PyFloat.div_finite width]
      · have right : c < x := not_le.mp fun under => top ⟨not_lt.mp left, under⟩
        have width : d - c ≠ 0 := (sub_pos.mpr (right.trans (not_le.mp below))).ne'
        simp [left, PyFloat.div_finite width]

/-- The degree of a voltage error in one of its sets. -/
def vbeDegree : Level → ℚ → ℚ
  | .low => trapezoid (-3) (-3) (-8 / 10) (-2 / 10)
  | .med => triangle (-8 / 10) 0 (8 / 10)
  | .high => trapezoid (2 / 10) (8 / 10) 3 3

/-- The degree of a total demand in one of its sets. -/
def pdDegree : Level → ℚ → ℚ
  | .low => trapezoid (-10) 0 20 40
  | .med => triangle 20 50 80
  | .high => trapezoid 60 80 150 150

/-- The degree of a trust score in one of its tiers. -/
def trDegree : Tier → ℚ → ℚ
  | .untrusted => trapezoid (-1 / 10) 0 (20 / 100) (30 / 100)
  | .degraded => triangle (20 / 100) (50 / 100) (75 / 100)
  | .trusted => trapezoid (65 / 100) (80 / 100) 1 (11 / 10)

/-- The degree of a setpoint in an output set. -/
def outDegree (label : OutLabel) : ℚ → ℚ :=
  triangle (outMfs label).1 (outMfs label).2.1 (outMfs label).2.2

/-- The strength of a rule. -/
def strength (vBusError pDemand trustScore : ℚ) (rule : Rule) : ℚ :=
  min (min (trDegree rule.trMf trustScore) (vbeDegree rule.vbeMf vBusError))
    (pdDegree rule.pdMf pDemand)

/-- A rule as the controller sees it. -/
def evaluated (vBusError pDemand trustScore : ℚ) (rule : Rule) : ℚ × (ℚ → ℚ) :=
  (strength vBusError pDemand trustScore rule, outDegree rule.outLabel)

theorem vbe_finite (level : Level) (x : ℚ) :
    vbe level (.finite x) = .ok (.finite (vbeDegree level x)) := by
  cases level with
  | low => exact trapf_finite x _ _ _ _
  | med => exact trimf_finite x _ _ _
  | high => exact trapf_finite x _ _ _ _

theorem pd_finite (level : Level) (x : ℚ) :
    pd level (.finite x) = .ok (.finite (pdDegree level x)) := by
  cases level with
  | low => exact trapf_finite x _ _ _ _
  | med => exact trimf_finite x _ _ _
  | high => exact trapf_finite x _ _ _ _

theorem tr_finite (tier : Tier) (x : ℚ) :
    tr tier (.finite x) = .ok (.finite (trDegree tier x)) := by
  cases tier with
  | untrusted => exact trapf_finite x _ _ _ _
  | degraded => exact trimf_finite x _ _ _
  | trusted => exact trapf_finite x _ _ _ _

theorem outMf_finite (label : OutLabel) (y : ℚ) :
    outMf (.finite y) label = .ok (.finite (outDegree label y)) := trimf_finite y _ _ _

/-- One round raises the degree of every sample to that of the clipped output set. -/
theorem applyRule_finite (e p t : ℚ) (best : ℚ → ℚ) (nonneg : ∀ y, 0 ≤ best y) (rule : Rule) :
    applyRule (.finite e) (.finite p) (.finite t) (samples.map fun y => .finite (best y)) rule
      = .ok (samples.map fun y =>
          .finite (max (best y) (min (strength e p t rule) (outDegree rule.outLabel y)))) := by
  have reached : (((PyFloat.finite (trDegree rule.trMf t)).pyMin
      (.finite (vbeDegree rule.vbeMf e))).pyMin (.finite (pdDegree rule.pdMf p)))
        = .finite (strength e p t rule) := by
    rw [PyFloat.pyMin_finite, PyFloat.pyMin_finite, strength]
  unfold applyRule
  simp only [tr_finite, vbe_finite, pd_finite, bind, Except.bind, reached]
  by_cases silent : strength e p t rule ≤ 0
  · rw [if_pos (by simpa using silent)]
    have kept : ∀ y, max (best y) (min (strength e p t rule) (outDegree rule.outLabel y)) = best y :=
      fun y => max_eq_left (((min_le_left _ _).trans silent).trans (nonneg y))
    simp only [kept]
    rfl
  · rw [if_neg (by simpa using silent)]
    have paired : samples.zip (samples.map fun y => PyFloat.finite (best y))
        = samples.map fun y => (y, PyFloat.finite (best y)) := by
      conv_lhs => rw [← List.map_id samples, List.map_map, List.zip_map']
      rfl
    rw [paired]
    refine mapM_ok samples _ _ _ fun y _ => ?_
    simp only [outMf_finite, PyFloat.pyMin_finite, PyFloat.lt_finite, decide_eq_true_eq]
    by_cases higher : best y < min (strength e p t rule) (outDegree rule.outLabel y)
    · rw [if_pos higher, max_eq_right higher.le]
      rfl
    · rw [if_neg higher, max_eq_left (not_lt.mp higher)]
      rfl

/-- The rule loop computes the union of the clipped output sets. -/
theorem foldlM_applyRule (e p t : ℚ) (table : List Rule) (best : ℚ → ℚ) (nonneg : ∀ y, 0 ≤ best y) :
    table.foldlM (applyRule (.finite e) (.finite p) (.finite t))
        (samples.map fun y => .finite (best y))
      = .ok (samples.map fun y =>
          .finite (max (best y) (aggregate (table.map (evaluated e p t)) y))) := by
  induction table generalizing best with
  | nil =>
    have kept : ∀ y, max (best y) (aggregate (List.map (evaluated e p t) []) y) = best y :=
      fun y => max_eq_left (nonneg y)
    simp only [kept]
    rfl
  | cons rule rest inductionHypothesis =>
    rw [List.foldlM_cons, applyRule_finite e p t best nonneg rule]
    simp only [bind, Except.bind]
    rw [inductionHypothesis _ fun y => (nonneg y).trans (le_max_left _ _)]
    simp only [max_assoc]
    rfl

/-- The rule loop of `_fuzzy_infer` leaves the union of all clipped output sets. -/
theorem foldlM_rules (e p t : ℚ) :
    rules.foldlM (applyRule (.finite e) (.finite p) (.finite t)) (samples.map fun _ => .finite 0)
      = .ok (samples.map fun y => .finite (aggregate (rules.map (evaluated e p t)) y)) := by
  rw [foldlM_applyRule e p t rules (fun _ => 0) fun _ => le_rfl]
  simp only [max_eq_right (aggregate_nonneg _ _)]

/-- The denominator of the quotient is the mass of the set. -/
theorem sum_aggregated (membership : ℚ → ℚ) :
    (samples.map fun y => PyFloat.finite (membership y)).foldl PyFloat.add (.finite 0)
      = .finite (samples.map membership).sum := by
  have split : (samples.map fun y => PyFloat.finite (membership y))
      = (samples.map membership).map PyFloat.finite := by
    rw [List.map_map]
    rfl
  rw [split, PyFloat.sum_finite, zero_add]

/-- On finite inputs the inference raises nothing and returns the centroid of the union of
the clipped output sets. -/
theorem fuzzyInfer_finite (e p t : ℚ) :
    fuzzyInfer (.finite e) (.finite p) (.finite t)
      = .ok (.finite (centroid samples (aggregate (rules.map (evaluated e p t))))) := by
  set union := aggregate (rules.map (evaluated e p t)) with named
  have numerator : ((samples.zip (samples.map fun y => PyFloat.finite (union y))).map
      fun (y, degree) => PyFloat.mul (.finite y) degree)
        = (samples.map fun y => y * union y).map PyFloat.finite := by
    conv_lhs => rw [← List.map_id samples, List.map_map, List.zip_map']
    rw [List.map_map, List.map_map]
    rfl
  unfold fuzzyInfer
  rw [foldlM_rules, ← named]
  simp only [bind, Except.bind]
  rw [numerator, sum_aggregated, PyFloat.sum_finite, zero_add]
  by_cases empty : (samples.map union).sum = 0
  · rw [empty, if_pos rfl, centroid, empty, div_zero]
    rfl
  · rw [if_neg fun equal => empty (PyFloat.finite.inj equal), PyFloat.div_finite empty, centroid]

/-- A finite number in the same sets: beyond every foot if the argument is infinite. -/
def surrogate : PyFloat → ℚ
  | .finite value => value
  | .infinite _ => 1000
  | .nan => 0

/-- An infinite argument is beyond the feet of a triangle, as a large one is. -/
theorem trimf_infinite (negative : Bool) {a b c : ℚ} (foot : c ≤ 1000) :
    trimf (.infinite negative) a b c = trimf (.finite 1000) a b c := by
  have large : trimf (.finite 1000) a b c = .ok (.finite 0) :=
    if_pos (by rw [PyFloat.le_finite, PyFloat.le_finite, decide_eq_true foot, Bool.or_true])
  rw [large]
  cases negative <;> rfl

/-- An infinite argument is beyond the feet of a trapezoid, as a large one is. -/
theorem trapf_infinite (negative : Bool) {a b c d : ℚ} (foot : d ≤ 1000) :
    trapf (.infinite negative) a b c d = trapf (.finite 1000) a b c d := by
  have large : trapf (.finite 1000) a b c d = .ok (.finite 0) :=
    if_pos (by rw [PyFloat.le_finite, PyFloat.le_finite, decide_eq_true foot, Bool.or_true])
  rw [large]
  cases negative <;> rfl

/-- Only NaN is told apart from every finite voltage error. -/
theorem vbe_surrogate (level : Level) {x : PyFloat} (number : x ≠ .nan) :
    vbe level x = vbe level (.finite (surrogate x)) := by
  cases x with
  | finite value => rfl
  | nan => exact absurd rfl number
  | infinite negative =>
    cases level with
    | low => exact trapf_infinite negative (by norm_num)
    | med => exact trimf_infinite negative (by norm_num)
    | high => exact trapf_infinite negative (by norm_num)

/-- Only NaN is told apart from every finite demand. -/
theorem pd_surrogate (level : Level) {x : PyFloat} (number : x ≠ .nan) :
    pd level x = pd level (.finite (surrogate x)) := by
  cases x with
  | finite value => rfl
  | nan => exact absurd rfl number
  | infinite negative =>
    cases level with
    | low => exact trapf_infinite negative (by norm_num)
    | med => exact trimf_infinite negative (by norm_num)
    | high => exact trapf_infinite negative (by norm_num)

/-- Unless a bus input is NaN the inference returns a finite number. -/
theorem fuzzyInfer_returns {error demand : PyFloat} (voltage : error ≠ .nan) (power : demand ≠ .nan)
    (t : ℚ) : ∃ output : ℚ, fuzzyInfer error demand (.finite t) = .ok (.finite output) := by
  have rounds : applyRule error demand (.finite t)
      = applyRule (.finite (surrogate error)) (.finite (surrogate demand)) (.finite t) := by
    funext aggregated rule
    rw [applyRule, applyRule, vbe_surrogate _ voltage, pd_surrogate _ power]
  refine ⟨_, Eq.trans ?_ (fuzzyInfer_finite (surrogate error) (surrogate demand) t)⟩
  rw [fuzzyInfer, fuzzyInfer, rounds]

end Exact

end Microgrid.Ems
