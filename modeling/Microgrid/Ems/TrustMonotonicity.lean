import Microgrid.Ems.OutputHeights

/-!
# Trust and power

Does a node with less trust ever get more power? Up to a score of 0.20 a node is answered
ZERO at full height, and every higher score answers sets whose weight lies further up: the
ratio of the two unions grows with the sample, so the centroids are in order
(`untrusted_gets_least`). From 0.80 on the score has no influence.

Between these scores the tiers hold partially and clip their output sets. ZERO is half a
triangle with its peak at 0 W, and clipping it moves its centroid up: on a bus over voltage
and under low demand every tier answers ZERO, and a node at 0.40 gets more than one at 0.80
(`partial_trust_gets_more`). At 0.50 the tier DEGRADED holds fully and another bus condition
shows the same.
-/

namespace Microgrid.Ems

open PythonValues FuzzyControl

/-- ZERO never rises over the samples. -/
theorem zero_falling {y z : ℚ} (sample : y ∈ samples) (ordered : y ≤ z) :
    outDegree .zero z ≤ outDegree .zero y :=
  triangle_falling (by norm_num [outMfs]) (by norm_num [outMfs]) ordered (samples_nonneg y sample)

/-- The other sets never fall before 10 W, where ZERO ends. -/
theorem other_rising {label : OutLabel} (other : label ≠ .zero) {y z : ℚ} (ordered : y ≤ z)
    (early : z < 10) : outDegree label y ≤ outDegree label z := by
  cases label with
  | zero => exact absurd rfl other
  | low | med | high | max =>
    apply triangle_rising _ _ ordered
    all_goals norm_num [outMfs]
    all_goals linarith

section LowTrust

variable {e p t : ℚ}

/-- No strength is negative. -/
theorem strength_nonneg (e p t : ℚ) (rule : Rule) : 0 ≤ strength e p t rule := by
  apply le_min (le_min _ _)
  · cases rule.pdMf with
    | low => exact trapezoid_nonneg _ _ _ _ _
    | med => exact triangle_nonneg _ _ _ _
    | high => exact trapezoid_nonneg _ _ _ _ _
  · cases rule.trMf with
    | untrusted => exact trapezoid_nonneg _ _ _ _ _
    | degraded => exact triangle_nonneg _ _ _ _
    | trusted => exact trapezoid_nonneg _ _ _ _ _
  · cases rule.vbeMf with
    | low => exact trapezoid_nonneg _ _ _ _ _
    | med => exact triangle_nonneg _ _ _ _
    | high => exact trapezoid_nonneg _ _ _ _ _

/-- Up to 0.20 the tier UNTRUSTED holds fully. -/
theorem untrusted_full (nonneg : 0 ≤ t) (low : t ≤ 20 / 100) : trDegree .untrusted t = 1 := by
  have inside : ¬(t ≤ -1 / 10 ∨ 30 / 100 ≤ t) := by
    rw [not_or, not_le, not_le]
    constructor <;> linarith
  rw [trDegree, trapezoid, if_neg inside, if_pos ⟨nonneg, low⟩]

/-- Up to 0.20 the union is ZERO, cut off at the strength of the strongest rule. -/
theorem low_union (low : t ≤ 20 / 100) (e p y : ℚ) :
    aggregate (rules.map (evaluated e p t)) y
      = min (peak (rules.map (evaluated e p t))) (outDegree .zero y) := by
  apply aggregate_uniform _ (outDegree .zero) _ y (triangle_nonneg _ _ _ _)
  intro pair listed fires
  obtain ⟨rule, member, rfl⟩ := List.mem_map.mp listed
  have tier := tier_of_low low ((strength_pos_iff e p t rule).mp fires).1
  rw [evaluated, outLabel_untrusted rule member tier]

/-- No rule is stronger at another score than the strongest up to 0.20, where the tier cuts
nothing off. -/
theorem strength_le_low_peak (nonneg : 0 ≤ t) (low : t ≤ 20 / 100) (e p other : ℚ) (rule : Rule) :
    strength e p other rule ≤ peak (rules.map (evaluated e p t)) := by
  have answered : ⟨.untrusted, rule.vbeMf, rule.pdMf, .zero⟩ ∈ rules := rules_untrusted _ _
  have strongest := le_peak (List.mem_map_of_mem (f := evaluated e p t) answered)
  have weaker : strength e p other rule ≤ min (min 1 (vbeDegree rule.vbeMf e)) (pdDegree rule.pdMf p) :=
    min_le_min_right _ (min_le_min_right _ (trDegree_le_one rule.trMf other))
  rw [evaluated, strength, untrusted_full nonneg low] at strongest
  exact weaker.trans strongest

/-- Against ZERO, cut off higher than any set, every set gains weight with the sample. -/
theorem ratio_to_zero {weak strong : ℚ} (nonneg : 0 ≤ weak) (weaker : weak ≤ strong)
    (label : OutLabel) {y z : ℚ} (sample : y ∈ samples) (ordered : y ≤ z) :
    min strong (outDegree .zero z) * min weak (outDegree label y)
      ≤ min strong (outDegree .zero y) * min weak (outDegree label z) := by
  have falling := zero_falling sample ordered
  have positive (x : ℚ) : 0 ≤ min strong (outDegree .zero x) :=
    le_min (nonneg.trans weaker) (triangle_nonneg _ _ _ _)
  by_cases same : label = .zero
  · rw [same, mul_comm]
    exact min_mul_min_le nonneg weaker (triangle_nonneg _ _ _ _) falling
  · by_cases early : z < 10
    · apply mul_le_mul _ _ (le_min nonneg (triangle_nonneg _ _ _ _)) (positive y)
      · exact min_le_min_left strong falling
      · exact min_le_min_left weak (other_rising same ordered early)
    · -- behind the foot of ZERO nothing is left on the other side
      have foot : outDegree .zero z = 0 := if_pos (.inr (not_lt.mp early))
      rw [foot, min_eq_right (nonneg.trans weaker), zero_mul]
      exact mul_nonneg (positive y) (le_min nonneg (triangle_nonneg _ _ _ _))

/-- No score gives less power than one up to 0.20. -/
theorem untrusted_gets_least (nonneg : 0 ≤ t) (low : t ≤ 20 / 100) (e p : ℚ) {other : ℚ}
    (positive : 0 ≤ other) (atMostOne : other ≤ 1) :
    centroid samples (aggregate (rules.map (evaluated e p t)))
      ≤ centroid samples (aggregate (rules.map (evaluated e p other))) := by
  by_cases fires : ∃ rule ∈ rules, 0 < strength e p t rule
  · have otherFires : ∃ rule ∈ rules, 0 < strength e p other rule := by
      rw [fires_iff] at fires ⊢
      exact ⟨⟨by linarith, by linarith⟩, fires.2⟩
    rw [centroid_le_iff samples ((mass_pos_iff e p t).mpr fires)
      ((mass_pos_iff e p other).mpr otherFires)]
    apply skew_nonneg
    intro y sample z listed ordered
    rw [low_union low, low_union low]
    have cut : 0 ≤ peak (rules.map (evaluated e p t)) := peak_nonneg _
    apply aggregate_ratio
    · exact le_min cut (triangle_nonneg _ _ _ _)
    · exact le_min cut (triangle_nonneg _ _ _ _)
    · intro pair member
      obtain ⟨rule, -, rfl⟩ := List.mem_map.mp member
      exact ratio_to_zero (strength_nonneg e p other rule)
        (strength_le_low_peak nonneg low e p other rule) rule.outLabel sample ordered
  · have otherSilent : ¬∃ rule ∈ rules, 0 < strength e p other rule := by
      rw [fires_iff] at fires ⊢
      exact fun covered => fires ⟨⟨by linarith, by linarith⟩, covered.2⟩
    rw [centroid_of_silence fires, centroid_of_silence otherSilent]

end LowTrust

section HighTrust

/-- From 0.80 on only the tier TRUSTED holds, and fully. -/
theorem trDegree_high {t : ℚ} (high : 80 / 100 ≤ t) (atMostOne : t ≤ 1) (tier : Tier) :
    trDegree tier t = if tier = .trusted then 1 else 0 := by
  cases tier with
  | untrusted => exact if_pos (.inr (by linarith))
  | degraded => exact if_pos (.inr (by linarith))
  | trusted =>
    have inside : ¬(t ≤ 65 / 100 ∨ 11 / 10 ≤ t) := by
      rw [not_or, not_le, not_le]
      constructor <;> linarith
    rw [trDegree, trapezoid, if_neg inside, if_pos ⟨high, atMostOne⟩, if_pos rfl]

/-- From 0.80 on the score has no influence. -/
theorem evaluated_high {t other : ℚ} (high : 80 / 100 ≤ t) (more : t ≤ other)
    (atMostOne : other ≤ 1) (e p : ℚ) : evaluated e p t = evaluated e p other := by
  funext rule
  rw [evaluated, evaluated, strength, strength, trDegree_high high (more.trans atMostOne),
    trDegree_high (high.trans more) atMostOne]

end HighTrust

section PartialTrust

variable {t : ℚ}

/-- Between 0.20 and 0.80 no tier but DEGRADED at 0.50 holds fully. -/
theorem trDegree_between (above : 20 / 100 < t) (below : t < 80 / 100) (apart : t ≠ 50 / 100)
    (tier : Tier) : trDegree tier t < 1 := by
  cases tier with
  | untrusted => exact trapezoid_lt_one (.inr above)
  | degraded => exact triangle_lt_one apart
  | trusted => exact trapezoid_lt_one (.inl below)

/-- On a bus over voltage and under low demand all rules that fire answer ZERO. -/
theorem outLabel_over_voltage (t : ℚ) : ∀ rule ∈ rules, 0 < strength 1 10 t rule →
    rule.outLabel = .zero := by
  have answers : ∀ rule ∈ rules, rule.vbeMf = .high → rule.pdMf = .low →
      rule.outLabel = .zero := by decide
  intro rule listed fires
  obtain ⟨-, vbeHolds, pdHolds⟩ := (strength_pos_iff 1 10 t rule).mp fires
  apply answers rule listed
  · generalize rule.vbeMf = level at vbeHolds
    cases level with
    | high => rfl
    | low => exact absurd vbeHolds (by decide +kernel)
    | med => exact absurd vbeHolds (by decide +kernel)
  · generalize rule.pdMf = level at pdHolds
    cases level with
    | low => rfl
    | med => exact absurd pdHolds (by decide +kernel)
    | high => exact absurd pdHolds (by decide +kernel)

/-- There the union is ZERO, cut off at the strength of the strongest rule. -/
theorem over_voltage_union (t y : ℚ) : aggregate (rules.map (evaluated 1 10 t)) y
    = min (peak (rules.map (evaluated 1 10 t))) (outDegree .zero y) := by
  apply aggregate_uniform _ (outDegree .zero) _ y (triangle_nonneg _ _ _ _)
  intro pair listed fires
  obtain ⟨rule, member, rfl⟩ := List.mem_map.mp listed
  rw [evaluated, outLabel_over_voltage t rule member fires]

/-- At 0.80 the strongest rule is not cut off there. -/
theorem over_voltage_full : peak (rules.map (evaluated 1 10 (80 / 100))) = 1 := by
  decide +kernel

/-- There a node whose tiers hold partially gets more than one at 0.80: ZERO, cut off below
its top, loses weight at 0 W. -/
theorem partial_trust_gets_more (above : 20 / 100 < t) (below : t < 80 / 100)
    (apart : t ≠ 50 / 100) :
    centroid samples (aggregate (rules.map (evaluated 1 10 (80 / 100))))
      < centroid samples (aggregate (rules.map (evaluated 1 10 t))) := by
  have fires (score : ℚ) (nonneg : 0 ≤ score) (atMostOne : score ≤ 1) :
      ∃ rule ∈ rules, 0 < strength 1 10 score rule := by
    rw [fires_iff]
    exact ⟨⟨by linarith, by linarith⟩, by norm_num⟩
  have mass (score : ℚ) (nonneg : 0 ≤ score) (atMostOne : score ≤ 1) :=
    (mass_pos_iff 1 10 score).mpr (fires score nonneg atMostOne)
  rw [centroid_lt_iff samples (mass _ (by norm_num) (by norm_num))
    (mass t (by linarith) (by linarith))]
  set height := peak (rules.map (evaluated 1 10 t)) with named
  have cut : 0 < height := by
    obtain ⟨rule, listed, strong⟩ := fires t (by linarith) (by linarith)
    exact (peak_pos_iff _).mpr ⟨_, List.mem_map_of_mem listed, strong⟩
  have short : height < 1 := by
    apply peak_lt _ one_pos
    intro pair listed
    obtain ⟨rule, -, rfl⟩ := List.mem_map.mp listed
    exact ((min_le_left _ _).trans (min_le_left _ _)).trans_lt
      (trDegree_between above below apart rule.trMf)
  have first : outDegree .zero 0 = 1 := by decide +kernel
  have last : outDegree .zero (19 / 2) = 1 / 20 := by decide +kernel
  apply @skew_pos _ _ _ _ samples _ _ _ 0 (19 / 2) (by decide +kernel) (by decide +kernel)
    (by norm_num)
  · rw [over_voltage_union, over_voltage_union, over_voltage_union, over_voltage_union,
      over_voltage_full, ← named, first, last, min_self, min_eq_left short.le, one_mul,
      min_eq_right (by norm_num)]
    apply lt_min
    · linarith
    · linarith
  · intro y sample z _ ordered
    rw [over_voltage_union, over_voltage_union, over_voltage_union, over_voltage_union,
      over_voltage_full, ← named]
    exact ratio_to_zero cut.le short.le .zero sample ordered

/-- On a bus under voltage and under a moderate demand, a node at 0.50 answers MED and LOW. -/
theorem heights_at_half : height (-6 / 10) 50 (50 / 100)
    = fun label => if label = .low then 1 / 4 else if label = .med then 2 / 3 else 0 := by
  funext label
  cases label <;> decide +kernel

/-- A node at 0.65 answers the same, but MED less. -/
theorem heights_above_half : height (-6 / 10) 50 (65 / 100)
    = fun label => if label = .low then 1 / 4 else if label = .med then 2 / 5 else 0 := by
  funext label
  cases label <;> decide +kernel

/-- There a node at 0.50 gets more than one at 0.65. -/
theorem degraded_gets_more :
    centroid samples (aggregate (rules.map (evaluated (-6 / 10) 50 (65 / 100))))
      < centroid samples (aggregate (rules.map (evaluated (-6 / 10) 50 (50 / 100)))) := by
  rw [union_eq_clippedAt, union_eq_clippedAt, heights_at_half, heights_above_half]
  decide +kernel

end PartialTrust

/-- At an input, the lower of two trust scores is commanded no more power than the higher. -/
def TrustNeverCosts (e p t1 t2 : ℚ) : Prop :=
  ∃ sp1 sp2, fuzzyInfer (.finite e) (.finite p) (.finite t1) = .ok (.finite sp1) ∧
    fuzzyInfer (.finite e) (.finite p) (.finite t2) = .ok (.finite sp2) ∧ sp1 ≤ sp2

/-- The law compares two centroids. -/
theorem trustNeverCosts_iff (e p t1 t2 : ℚ) : TrustNeverCosts e p t1 t2 ↔
    centroid samples (aggregate (rules.map (evaluated e p t1)))
      ≤ centroid samples (aggregate (rules.map (evaluated e p t2))) := by
  constructor
  · rintro ⟨sp1, sp2, first, second, ordered⟩
    rw [fuzzyInfer_finite] at first second
    rw [PyFloat.finite.inj (Except.ok.inj first), PyFloat.finite.inj (Except.ok.inj second)]
    exact ordered
  · exact fun ordered => ⟨_, _, fuzzyInfer_finite e p t1, fuzzyInfer_finite e p t2, ordered⟩

/-- A node on a bus over voltage and under low demand: at 0.40 it gets more than at 0.80. -/
theorem anomaly_raises_setpoint : ¬∀ e p t1 t2 : ℚ, 0 ≤ t1 → t1 ≤ t2 → t2 ≤ 1 →
    TrustNeverCosts e p t1 t2 := by
  intro always
  have ordered := always 1 10 (40 / 100) (80 / 100) (by norm_num) (by norm_num) (by norm_num)
  rw [trustNeverCosts_iff] at ordered
  have reversed := @partial_trust_gets_more (40 / 100) (by norm_num) (by norm_num) (by norm_num)
  exact reversed.not_ge ordered

/-- From a score upward, more trust never costs power on any bus, exactly if the tiers of the
score are full: UNTRUSTED up to 0.20, or TRUSTED from 0.80 on. -/
theorem trust_never_costs_iff {t1 : ℚ} (nonneg : 0 ≤ t1) :
    (∀ e p t2 : ℚ, t1 ≤ t2 → t2 ≤ 1 → TrustNeverCosts e p t1 t2) ↔
      t1 ≤ 20 / 100 ∨ 80 / 100 ≤ t1 := by
  constructor
  · intro always
    by_contra neither
    obtain ⟨notLow, notHigh⟩ := not_or.mp neither
    have above := not_le.mp notLow
    have below := not_le.mp notHigh
    by_cases half : t1 = 50 / 100
    · have ordered := (trustNeverCosts_iff _ _ _ _).mp
        (always (-6 / 10) 50 (65 / 100) (by linarith) (by norm_num))
      rw [half] at ordered
      exact degraded_gets_more.not_ge ordered
    · have ordered := (trustNeverCosts_iff _ _ _ _).mp
        (always 1 10 (80 / 100) below.le (by norm_num))
      exact (partial_trust_gets_more above below half).not_ge ordered
  · rintro (low | high) e p t2 more limit
    · rw [trustNeverCosts_iff]
      exact untrusted_gets_least nonneg low e p (nonneg.trans more) limit
    · rw [trustNeverCosts_iff, evaluated_high high more limit]

/-- On a nominal bus under a moderate demand, a node at 0.10 gets no more than one at 0.90. -/
theorem trust_never_costs_suspect : TrustNeverCosts 0 50 (1 / 10) (9 / 10) :=
  (trust_never_costs_iff (by norm_num)).mpr (.inl (by norm_num)) 0 50 (9 / 10)
    (by norm_num) (by norm_num)

end Microgrid.Ems
