import Mathlib.Data.Set.Finite.Lemmas
import Microgrid.Ems.RuleCoverage

/-!
# What a trust tier can be commanded

The centroid lies between the outermost samples at which the output set of a rule that
fires is positive. The tiers above a trust score hold no rules that fire at it, so the
output sets of the remaining rows cap the setpoint: below 60 W up to a score of 0.65 and
below 10 W up to 0.20.
-/

namespace Microgrid.Ems

open PythonValues FuzzyControl

/-- The samples at which the output set of some rule that fires is positive. -/
def firedSamples (e p t : ℚ) : Set ℚ :=
  {y | y ∈ samples ∧ ∃ rule ∈ rules, 0 < strength e p t rule ∧ 0 < outDegree rule.outLabel y}

/-- The union of the clipped output sets is positive exactly at these samples. -/
theorem mem_firedSamples_iff (e p t y : ℚ) :
    y ∈ firedSamples e p t ↔ y ∈ samples ∧ 0 < aggregate (rules.map (evaluated e p t)) y := by
  rw [aggregate_pos_iff]
  constructor
  · rintro ⟨sample, rule, listed, fires, inside⟩
    exact ⟨sample, _, List.mem_map_of_mem listed, fires, inside⟩
  · rintro ⟨sample, _, member, fires, inside⟩
    obtain ⟨rule, listed, rfl⟩ := List.mem_map.mp member
    exact ⟨sample, rule, listed, fires, inside⟩

/-- Where some rule fires, there is such a sample. -/
theorem firedSamples_nonempty {e p t : ℚ} (fires : ∃ rule ∈ rules, 0 < strength e p t rule) :
    (firedSamples e p t).Nonempty := by
  obtain ⟨rule, listed, strong⟩ := fires
  obtain ⟨y, sample, inside⟩ := outDegree_inhabited rule.outLabel
  exact ⟨y, sample, rule, listed, strong, inside⟩

/-- Where some rule fires, the outermost of these samples bound the centroid. -/
theorem centroid_between_fired {e p t : ℚ} (fires : ∃ rule ∈ rules, 0 < strength e p t rule) :
    ∃ lo hi, IsLeast (firedSamples e p t) lo ∧ IsGreatest (firedSamples e p t) hi ∧
      lo ≤ centroid samples (aggregate (rules.map (evaluated e p t))) ∧
      centroid samples (aggregate (rules.map (evaluated e p t))) ≤ hi := by
  have finite : (firedSamples e p t).Finite :=
    (List.finite_toSet samples).subset fun y member => member.1
  have nonempty := firedSamples_nonempty fires
  obtain ⟨lo, least, below⟩ := Set.exists_min_image _ id finite nonempty
  obtain ⟨hi, greatest, above⟩ := Set.exists_max_image _ id finite nonempty
  refine ⟨lo, hi, ⟨least, below⟩, ⟨greatest, above⟩, ?_⟩
  apply centroid_mem_bounds
  · exact fun y _ => aggregate_nonneg _ y
  · obtain ⟨sample, inside⟩ := (mem_firedSamples_iff e p t lo).mp least
    exact ⟨lo, sample, inside⟩
  · intro y sample inside
    have fired := (mem_firedSamples_iff e p t y).mpr ⟨sample, inside⟩
    exact ⟨below y fired, above y fired⟩

/-- A cap on the samples of all rules that fire caps the centroid. -/
theorem centroid_le_cap {e p t cap : ℚ} (nonneg : 0 ≤ cap)
    (capped : ∀ y ∈ firedSamples e p t, y ≤ cap) :
    centroid samples (aggregate (rules.map (evaluated e p t))) ≤ cap := by
  by_cases fires : ∃ rule ∈ rules, 0 < strength e p t rule
  · obtain ⟨lo, hi, -, greatest, -, below⟩ := centroid_between_fired fires
    exact below.trans (capped hi greatest.1)
  · rw [centroid_of_silence fires]
    exact nonneg

/-- Up to 0.20 no tier but UNTRUSTED holds. -/
theorem tier_of_low {t : ℚ} (low : t ≤ 20 / 100) {tier : Tier} (holds : 0 < trDegree tier t) :
    tier = .untrusted := by
  cases tier with
  | untrusted => rfl
  | degraded =>
    have above := ((triangle_pos_iff _ _ _ _).mp holds).1
    linarith
  | trusted =>
    have above := ((trapezoid_pos_iff _ _ _ _ _).mp holds).1
    linarith

/-- Up to 0.65 the tier TRUSTED does not hold. -/
theorem tier_of_untrusting {t : ℚ} (low : t ≤ 65 / 100) {tier : Tier}
    (holds : 0 < trDegree tier t) : tier ≠ .trusted := by
  rintro rfl
  have above := ((trapezoid_pos_iff _ _ _ _ _).mp holds).1
  linarith

/-- Only rules of the tier TRUSTED answer HIGH or MAX. -/
theorem outLabel_untrusting : ∀ rule ∈ rules, rule.trMf ≠ .trusted →
    rule.outLabel = .zero ∨ rule.outLabel = .low ∨ rule.outLabel = .med := by
  decide

/-- The last sample of the output set ZERO. -/
theorem zero_le : ∀ y ∈ samples, 0 < outDegree .zero y → y ≤ 19 / 2 := by
  decide +kernel

/-- The last samples of the output sets up to MED. -/
theorem med_le {label : OutLabel} (moderate : label = .zero ∨ label = .low ∨ label = .med) :
    ∀ y ∈ samples, 0 < outDegree label y → y ≤ 119 / 2 := by
  rcases moderate with rfl | rfl | rfl
  · decide +kernel
  · decide +kernel
  · decide +kernel

/-- What a trust score can be commanded at an input: no more than the last
sample of the sets that its tiers can answer, and always between the outermost samples of
the rules that fire. -/
structure TrustCapsSetpoint (e p t sp : ℚ) : Prop where
  nonTrusted : t ≤ 65 / 100 → sp ≤ 119 / 2
  noHighOrMax : t ≤ 65 / 100 → ∀ rule ∈ rules, 0 < strength e p t rule →
    rule.outLabel ≠ .high ∧ rule.outLabel ≠ .max
  untrusted : t ≤ 20 / 100 → sp ≤ 19 / 2
  between : (∃ rule ∈ rules, 0 < strength e p t rule) → ∃ lo hi,
    IsLeast (firedSamples e p t) lo ∧ IsGreatest (firedSamples e p t) hi ∧ lo ≤ sp ∧ sp ≤ hi
  fallback : (¬∃ rule ∈ rules, 0 < strength e p t rule) → sp = 0

/-- The inference returns a setpoint that the trust score caps. -/
theorem trust_caps_setpoint (e p t : ℚ) :
    ∃ sp, fuzzyInfer (.finite e) (.finite p) (.finite t) = .ok (.finite sp) ∧
      TrustCapsSetpoint e p t sp := by
  refine ⟨_, fuzzyInfer_finite e p t, ?_⟩
  have moderate (untrusting : t ≤ 65 / 100) {rule : Rule} (listed : rule ∈ rules)
      (fires : 0 < strength e p t rule) :
      rule.outLabel = .zero ∨ rule.outLabel = .low ∨ rule.outLabel = .med :=
    outLabel_untrusting rule listed
      (tier_of_untrusting untrusting ((strength_pos_iff e p t rule).mp fires).1)
  constructor
  · intro untrusting
    apply centroid_le_cap (by norm_num)
    rintro y ⟨sample, rule, listed, fires, inside⟩
    exact med_le (moderate untrusting listed fires) y sample inside
  · intro untrusting rule listed fires
    rcases moderate untrusting listed fires with label | label | label
    all_goals rw [label]; exact ⟨nofun, nofun⟩
  · intro untrusting
    apply centroid_le_cap (by norm_num)
    rintro y ⟨sample, rule, listed, fires, inside⟩
    have tier := tier_of_low untrusting ((strength_pos_iff e p t rule).mp fires).1
    rw [outLabel_untrusted rule listed tier] at inside
    exact zero_le y sample inside
  · exact centroid_between_fired
  · exact centroid_of_silence

end Microgrid.Ems
