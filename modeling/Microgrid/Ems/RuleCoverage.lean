import Microgrid.Ems.UntrustedSetpoint

/-!
# Where some rule fires

The table has a row for every choice of a tier and two levels, so a rule fires where each
of the three inputs is covered by its own sets (`fires_iff`). The trust tiers cover all
scores between 0 and 1. The outer sets of the bus inputs are trapezoids with two coinciding
corners: at -3 V, at 3 V and at 150 W they fall from one to zero instead of going on as the
shoulders that their descriptions (`< -0.2 V`, `> +0.2 V`, `> 60 W`) announce. Beyond these
corners no rule fires and every node is commanded 0 W.
-/

namespace Microgrid.Ems

open PythonValues FuzzyControl

/-- Some tier holds at every trust score, and slightly beyond. -/
theorem tr_covers (t : ℚ) : (∃ tier, 0 < trDegree tier t) ↔ -1 / 10 < t ∧ t < 11 / 10 := by
  have cover := overlapping_cover (show (-1 / 10 : ℚ) ≤ 20 / 100 by norm_num)
    (show (20 / 100 : ℚ) < 30 / 100 by norm_num) (show (20 / 100 : ℚ) ≤ 65 / 100 by norm_num)
    (show (65 / 100 : ℚ) < 75 / 100 by norm_num) (show (75 / 100 : ℚ) ≤ 11 / 10 by norm_num)
    (show (30 / 100 : ℚ) ≤ 11 / 10 by norm_num) t
  rw [← cover]
  constructor
  · rintro ⟨tier, holds⟩
    cases tier with
    | untrusted => exact .inl ((trapezoid_pos_iff _ _ _ _ _).mp holds)
    | degraded => exact .inr (.inl ((triangle_pos_iff _ _ _ _).mp holds))
    | trusted => exact .inr (.inr ((trapezoid_pos_iff _ _ _ _ _).mp holds))
  · rintro (holds | holds | holds)
    · exact ⟨.untrusted, (trapezoid_pos_iff _ _ _ _ _).mpr holds⟩
    · exact ⟨.degraded, (triangle_pos_iff _ _ _ _).mpr holds⟩
    · exact ⟨.trusted, (trapezoid_pos_iff _ _ _ _ _).mpr holds⟩

/-- The table answers every choice of a tier and two levels. -/
theorem rules_answer (trMf : Tier) (vbeMf pdMf : Level) :
    ∃ rule ∈ rules, rule.trMf = trMf ∧ rule.vbeMf = vbeMf ∧ rule.pdMf = pdMf := by
  cases trMf <;> cases vbeMf <;> cases pdMf <;> decide

/-- A rule fires exactly where all three inputs are covered. -/
theorem fires_iff (e p t : ℚ) : (∃ rule ∈ rules, 0 < strength e p t rule) ↔
    (-1 / 10 < t ∧ t < 11 / 10) ∧ (-3 < e ∧ e < 3) ∧ -10 < p ∧ p < 150 := by
  rw [← tr_covers, ← vbe_covers, ← pd_covers]
  constructor
  · rintro ⟨rule, -, fires⟩
    obtain ⟨trHolds, vbeHolds, pdHolds⟩ := (strength_pos_iff e p t rule).mp fires
    exact ⟨⟨_, trHolds⟩, ⟨_, vbeHolds⟩, ⟨_, pdHolds⟩⟩
  · rintro ⟨⟨trMf, trHolds⟩, ⟨vbeMf, vbeHolds⟩, ⟨pdMf, pdHolds⟩⟩
    obtain ⟨rule, listed, rfl, rfl, rfl⟩ := rules_answer trMf vbeMf pdMf
    exact ⟨rule, listed, (strength_pos_iff e p t rule).mpr ⟨trHolds, vbeHolds, pdHolds⟩⟩

/-- Every output set is positive at some sample. -/
theorem outDegree_inhabited (label : OutLabel) : ∃ y ∈ samples, 0 < outDegree label y := by
  cases label <;> decide +kernel

/-- The union of the clipped output sets has a mass exactly where some rule fires. -/
theorem mass_pos_iff (e p t : ℚ) :
    0 < (samples.map (aggregate (rules.map (evaluated e p t)))).sum ↔
      ∃ rule ∈ rules, 0 < strength e p t rule := by
  constructor
  · intro mass
    by_contra silent
    apply mass.ne'
    apply List.sum_eq_zero
    intro value listed
    obtain ⟨y, -, rfl⟩ := List.mem_map.mp listed
    apply le_antisymm _ (aggregate_nonneg _ _)
    apply not_lt.mp
    intro inside
    obtain ⟨_, member, fires, -⟩ := (aggregate_pos_iff _ y).mp inside
    obtain ⟨rule, ruleListed, rfl⟩ := List.mem_map.mp member
    exact silent ⟨rule, ruleListed, fires⟩
  · rintro ⟨rule, listed, fires⟩
    obtain ⟨y, sample, inside⟩ := outDegree_inhabited rule.outLabel
    apply mass_pos samples _ fun y _ => aggregate_nonneg _ y
    exact ⟨y, sample, (aggregate_pos_iff _ y).mpr ⟨_, List.mem_map_of_mem listed, fires, inside⟩⟩

/-- Where no rule fires the centroid is the quotient's value for an empty set. -/
theorem centroid_of_silence {e p t : ℚ} (silent : ¬∃ rule ∈ rules, 0 < strength e p t rule) :
    centroid samples (aggregate (rules.map (evaluated e p t))) = 0 := by
  have empty := le_antisymm (not_lt.mp (mt (mass_pos_iff e p t).mp silent))
    (List.sum_nonneg (by simp [aggregate_nonneg]))
  rw [centroid, empty, div_zero]

/-- The rule base is complete at an input: some rule fires, the inference does not take its
fallback, and no membership function raises. -/
structure RuleBaseComplete (e p t : ℚ) : Prop where
  fires : ∃ rule ∈ rules, 0 < strength e p t rule
  noFallback : ∀ aggregated,
    rules.foldlM (applyRule (.finite e) (.finite p) (.finite t)) (samples.map fun _ => .finite 0)
      = .ok aggregated → aggregated.foldl PyFloat.add (.finite 0) ≠ .finite 0
  noDivisionByZero : (∀ tier, ∃ degree, tr tier (.finite t) = .ok degree) ∧
    (∀ level, ∃ degree, vbe level (.finite e) = .ok degree) ∧
    (∀ level, ∃ degree, pd level (.finite p) = .ok degree) ∧
    ∀ label, ∀ y ∈ samples, ∃ degree, outMf (.finite y) label = .ok degree

/-- A bus at 9 V: no rule fires for a trusted node, and it is commanded 0 W. -/
theorem under_voltage_uncovered : ¬RuleBaseComplete (-3) 10 1 ∧
    fuzzyInfer (.finite (-3)) (.finite 10) (.finite 1) = .ok (.finite 0) := by
  have uncovered : ¬∃ rule ∈ rules, 0 < strength (-3) 10 1 rule := by
    rw [fires_iff]
    norm_num
  constructor
  · exact fun complete => uncovered complete.fires
  · rw [fuzzyInfer_finite, centroid_of_silence uncovered]

/-- The rule base is complete exactly inside the corners of the outer sets. -/
theorem rule_base_complete_iff (e : ℚ) {p t : ℚ} (demand : 0 ≤ p) (low : 0 ≤ t) (high : t ≤ 1) :
    RuleBaseComplete e p t ↔ (-3 < e ∧ e < 3) ∧ p < 150 := by
  constructor
  · intro complete
    obtain ⟨-, voltage, -, below⟩ := (fires_iff e p t).mp complete.fires
    exact ⟨voltage, below⟩
  · rintro ⟨voltage, below⟩
    have fires : ∃ rule ∈ rules, 0 < strength e p t rule := by
      rw [fires_iff]
      exact ⟨⟨by linarith, by linarith⟩, voltage, by linarith, below⟩
    constructor
    · exact fires
    · intro aggregated finished
      rw [foldlM_rules] at finished
      rw [← Except.ok.inj finished, sum_aggregated]
      intro empty
      exact ((mass_pos_iff e p t).mpr fires).ne' (PyFloat.finite.inj empty)
    · refine ⟨fun tier => ⟨_, tr_finite tier t⟩, fun level => ⟨_, vbe_finite level e⟩,
        fun level => ⟨_, pd_finite level p⟩, fun label y _ => ⟨_, outMf_finite label y⟩⟩

/-- A bus at its nominal voltage under a moderate demand. -/
theorem rule_base_complete_nominal : RuleBaseComplete 0 50 (4 / 5) :=
  (rule_base_complete_iff 0 (by norm_num) (by norm_num) (by norm_num)).mpr
    ⟨⟨by norm_num, by norm_num⟩, by norm_num⟩

end Microgrid.Ems
