import Mathlib.Tactic.Linarith
import Mathlib.Tactic.NormNum
import Microgrid.Ems.EmsCoordinator

/-!
# The setpoint of an untrusted node

Below a trust score of 0.20 only the UNTRUSTED tier holds, and all its rules answer ZERO.
That output set is a triangle with its peak at 0 W and its right foot at 10 W, so its
centroid over the samples is never zero: however weakly a rule fires, the cut triangle
balances at 1.66 W or above (`untrusted_output`). The node is commanded 0 W only where no
rule fires at all, which is where the bus voltage or the demand has left the range that
the input sets cover.
-/

namespace Microgrid.Ems

open PythonValues FuzzyControl

/-- A level is one of three. -/
theorem exists_level {holds : Level → Prop} :
    (∃ level, holds level) ↔ holds .low ∨ holds .med ∨ holds .high := by
  constructor
  · rintro ⟨level, held⟩
    cases level with
    | low => exact .inl held
    | med => exact .inr (.inl held)
    | high => exact .inr (.inr held)
  · rintro (held | held | held)
    · exact ⟨.low, held⟩
    · exact ⟨.med, held⟩
    · exact ⟨.high, held⟩

/-- Some set of the voltage error holds exactly between -3 V and 3 V. -/
theorem vbe_covers (e : ℚ) : (∃ level, 0 < vbeDegree level e) ↔ -3 < e ∧ e < 3 := by
  simp only [exists_level, vbeDegree, trapezoid_pos_iff, triangle_pos_iff]
  apply overlapping_cover <;> norm_num

/-- Some set of the demand holds exactly between -10 W and 150 W. -/
theorem pd_covers (p : ℚ) : (∃ level, 0 < pdDegree level p) ↔ -10 < p ∧ p < 150 := by
  simp only [exists_level, pdDegree, trapezoid_pos_iff, triangle_pos_iff]
  apply overlapping_cover <;> norm_num

/-- Below 0.20 only the UNTRUSTED tier holds. -/
theorem tier_untrusted {t : ℚ} (nonneg : 0 ≤ t) (low : t < 20 / 100) (tier : Tier) :
    0 < trDegree tier t ↔ tier = .untrusted := by
  cases tier with
  | untrusted =>
    refine ⟨fun _ => rfl, fun _ => (trapezoid_pos_iff _ _ _ _ _).mpr ⟨by linarith, by linarith⟩⟩
  | degraded =>
    refine ⟨fun holds => ?_, nofun⟩
    have above := ((triangle_pos_iff _ _ _ _).mp holds).1
    linarith
  | trusted =>
    refine ⟨fun holds => ?_, nofun⟩
    have above := ((trapezoid_pos_iff _ _ _ _ _).mp holds).1
    linarith

/-- The rules of the UNTRUSTED tier, one for each pair of bus conditions, answer ZERO. -/
theorem rules_untrusted (vbeMf pdMf : Level) : ⟨.untrusted, vbeMf, pdMf, .zero⟩ ∈ rules := by
  cases vbeMf <;> cases pdMf <;> decide

/-- No rule of the UNTRUSTED tier answers anything else. -/
theorem outLabel_untrusted : ∀ rule ∈ rules, rule.trMf = .untrusted → rule.outLabel = .zero := by
  decide

/-- A rule fires exactly if its three sets hold. -/
theorem strength_pos_iff (e p t : ℚ) (rule : Rule) : 0 < strength e p t rule ↔
    0 < trDegree rule.trMf t ∧ 0 < vbeDegree rule.vbeMf e ∧ 0 < pdDegree rule.pdMf p := by
  rw [strength, lt_min_iff, lt_min_iff, and_assoc]

/-- For an untrusted node some rule fires exactly where both bus inputs are covered. -/
theorem untrusted_fires {t : ℚ} (nonneg : 0 ≤ t) (low : t < 20 / 100) (e p : ℚ) :
    0 < peak (rules.map (evaluated e p t)) ↔ (-3 < e ∧ e < 3) ∧ (-10 < p ∧ p < 150) := by
  rw [peak_pos_iff, ← vbe_covers, ← pd_covers]
  constructor
  · rintro ⟨_, listed, fires⟩
    obtain ⟨rule, -, rfl⟩ := List.mem_map.mp listed
    obtain ⟨-, vbeHolds, pdHolds⟩ := (strength_pos_iff e p t rule).mp fires
    exact ⟨⟨_, vbeHolds⟩, ⟨_, pdHolds⟩⟩
  · rintro ⟨⟨vbeMf, vbeHolds⟩, ⟨pdMf, pdHolds⟩⟩
    refine ⟨_, List.mem_map_of_mem (rules_untrusted vbeMf pdMf), ?_⟩
    exact (strength_pos_iff e p t _).mpr
      ⟨(tier_untrusted nonneg low .untrusted).mpr rfl, vbeHolds, pdHolds⟩

/-- For an untrusted node the union of the output sets is the ZERO triangle, cut off at the
strength of the strongest rule. -/
theorem untrusted_union {t : ℚ} (nonneg : 0 ≤ t) (low : t < 20 / 100) (e p : ℚ) :
    aggregate (rules.map (evaluated e p t)) =
      fun y => min (peak (rules.map (evaluated e p t))) (outDegree .zero y) := by
  funext y
  refine aggregate_uniform _ (outDegree .zero) ?_ y (triangle_nonneg _ _ _ _)
  intro pair listed fires
  obtain ⟨rule, member, rfl⟩ := List.mem_map.mp listed
  have tier := (tier_untrusted nonneg low rule.trMf).mp ((strength_pos_iff e p t rule).mp fires).1
  rw [evaluated, outLabel_untrusted rule member tier]

/-- No trust degree exceeds one. -/
theorem trDegree_le_one (tier : Tier) (t : ℚ) : trDegree tier t ≤ 1 := by
  cases tier with
  | untrusted => exact trapezoid_le_one _ _ _ _ _
  | degraded => exact triangle_le_one _ _ _ _
  | trusted => exact trapezoid_le_one _ _ _ _ _

/-- No strength exceeds one. -/
theorem strength_le_one (e p t : ℚ) (rule : Rule) : strength e p t rule ≤ 1 :=
  (min_le_left _ _).trans ((min_le_left _ _).trans (trDegree_le_one rule.trMf t))

/-- No sample is negative. -/
theorem samples_nonneg : ∀ y ∈ samples, 0 ≤ y := by
  intro y listed
  obtain ⟨index, -, rfl⟩ := List.mem_map.mp listed
  exact mul_nonneg (Nat.cast_nonneg index) (by norm_num [universeStep])

/-- Twenty samples lie on the ZERO triangle. -/
theorem zero_support :
    (samples.map fun y => if 0 < outDegree .zero y then (1 : ℚ) else 0).sum = 20 := by
  decide +kernel

/-- The weight of the ZERO triangle over the samples. -/
theorem zero_weight : (samples.map fun y => y * outDegree .zero y).sum = 133 / 4 := by
  decide +kernel

/-- What the inference returns for an untrusted node: nothing where no rule fires, and at
least 1.66 W everywhere else. -/
theorem untrusted_output {t : ℚ} (nonneg : 0 ≤ t) (low : t < 20 / 100) (e p : ℚ) :
    (centroid samples (aggregate (rules.map (evaluated e p t))) = 0 ∧
        ¬((-3 < e ∧ e < 3) ∧ (-10 < p ∧ p < 150))) ∨
      (133 / 80 ≤ centroid samples (aggregate (rules.map (evaluated e p t))) ∧
        (-3 < e ∧ e < 3) ∧ (-10 < p ∧ p < 150)) := by
  rw [untrusted_union nonneg low]
  by_cases fires : 0 < peak (rules.map (evaluated e p t))
  · refine .inr ⟨?_, (untrusted_fires nonneg low e p).mp fires⟩
    have atMostOne : peak (rules.map (evaluated e p t)) ≤ 1 := by
      refine peak_le _ zero_le_one fun pair listed => ?_
      obtain ⟨rule, -, rfl⟩ := List.mem_map.mp listed
      exact strength_le_one e p t rule
    have ordinary : ∀ y ∈ samples, 0 ≤ y ∧ 0 ≤ outDegree .zero y ∧ outDegree .zero y ≤ 1 :=
      fun y listed => ⟨samples_nonneg y listed, triangle_nonneg _ _ _ _, triangle_le_one _ _ _ _⟩
    have inhabited : ∃ y ∈ samples, 0 < outDegree .zero y := by
      refine ⟨(0 : ℕ) * universeStep, List.mem_map_of_mem (List.mem_range.mpr (Nat.succ_pos _)), ?_⟩
      exact (triangle_pos_iff _ _ _ _).mpr ⟨by norm_num [outMfs], by norm_num [outMfs]⟩
    have balance := le_centroid_clip samples (outDegree .zero) _ fires atMostOne ordinary inhabited
    rw [zero_weight, zero_support] at balance
    linarith
  · refine .inl ⟨?_, fun covered => fires ((untrusted_fires nonneg low e p).mpr covered)⟩
    refine centroid_eq_zero _ _ fun y _ => ?_
    have silent : peak (rules.map (evaluated e p t)) = 0 :=
      le_antisymm (not_lt.mp fires) (peak_nonneg _)
    rw [silent]
    exact min_eq_left (triangle_nonneg _ _ _ _)

/-- The setpoint inferred for an untrusted node. -/
theorem untrusted_setpoint {t : ℚ} (nonneg : 0 ≤ t) (low : t < 20 / 100) (e p : ℚ)
    {demand : PyNumber} (power : demand.exact = .finite p) {reading : Reading}
    (carried : TrustScore reading t) :
    ∃ sp, nodeSetpoint (.finite e) demand reading = .ok sp ∧
      (sp = .finite 0 ↔ ¬((-3 < e ∧ e < 3) ∧ (-10 < p ∧ p < 150))) := by
  set output := centroid samples (aggregate (rules.map (evaluated e p t)))
  obtain ⟨trust, operand, score⟩ := carried.operand
  obtain ⟨tenths, rounded, near⟩ := PyFloat.round1_near output
  have inferred : nodeSetpoint (.finite e) demand reading
      = .ok (.finite (max minSp (min maxSp (tenths / 10)))) := by
    rw [nodeSetpoint, operand]
    simp only [bind, Except.bind]
    rw [power, score, fuzzyInfer_finite]
    simp only [output, rounded, PyFloat.pyMin_finite, PyFloat.pyMax_finite]
    rfl
  refine ⟨_, inferred, ?_⟩
  rw [PyFloat.finite.injEq]
  obtain ⟨lower, upper⟩ := abs_le.mp near
  rcases untrusted_output nonneg low e p with ⟨zero, uncovered⟩ | ⟨balanced, covered⟩
  · refine ⟨fun _ => uncovered, fun _ => ?_⟩
    have noTenths : tenths = 0 := by
      have small : |(tenths : ℚ)| < 1 := by
        rw [abs_lt]
        constructor <;> linarith
      exact Int.abs_lt_one_iff.mp (by exact_mod_cast small)
    simp [noTenths, minSp, maxSp]
  · refine ⟨fun stored => absurd stored ?_, fun uncovered => absurd covered uncovered⟩
    have manyTenths : (0 : ℚ) < tenths / 10 := by linarith
    have positive : 0 < min maxSp ((tenths : ℚ) / 10) := lt_min (by norm_num [maxSp]) manyTenths
    exact (lt_max_of_lt_right positive).ne'

/-- After an update the setpoint of an untrusted node is zero exactly where the bus
voltage or the total demand is outside the range the input sets cover. -/
theorem untrusted_zero_iff (ems : EMSCoordinator) (store : DataStore) (now : ℚ) (label : String)
    (reading : Reading) (recorded : store.getLatest label = some reading) (t : ℚ)
    (carried : TrustScore reading t) (nonneg : 0 ≤ t) (low : t < 20 / 100) (e p : ℚ)
    (mean : vBusError store.getAllLatest = .ok (.finite e)) (demand : PyNumber)
    (total : pDemand store.getAllLatest = .ok demand) (power : demand.exact = .finite p)
    (returned : (ems.update store now).2 = .ok ()) :
    (ems.update store now).1.setpoints.get? label = some (.finite 0) ↔
      (e ≤ -3 ∨ 3 ≤ e) ∨ (p ≤ -10 ∨ 150 ≤ p) := by
  obtain ⟨sp, inferred, zero⟩ := untrusted_setpoint nonneg low e p power carried
  obtain ⟨stored, same, kept⟩ := ems.update_stored store now recorded mean total returned
  rw [inferred] at same
  rw [kept, ← Except.ok.inj same, Option.some.injEq, zero, not_and_or, not_and_or, not_and_or,
    not_lt, not_lt, not_lt, not_lt]

/-- The reading of a node at 12 V that takes part with 10 W. -/
def suspectReading : Reading :=
  [("V_bus", .float (.finite 12)), ("P_bus", .float (.finite 10)),
    ("trust_score", .float (.finite (1 / 10)))]

/-- A store that holds the reading of one node at a low trust score. -/
def suspectStore : DataStore :=
  (DataStore.init maxReadingsPerNode).record "node_a" suspectReading 0

/-- What was recorded is what the update reads. -/
theorem suspect_recorded : suspectStore.getLatest "node_a"
    = some (Fields.setdefault suspectReading "server_ts" (.float (.finite 0))) :=
  Dict.get?_set_self _ _ _

/-- The reading carries a trust score of 0.10. -/
theorem suspect_trust : TrustScore
    (Fields.setdefault suspectReading "server_ts" (.float (.finite 0))) (1 / 10) :=
  ⟨.float (.finite (1 / 10)), .float (.finite (1 / 10)), rfl, rfl, rfl⟩

/-- The bus is at its nominal voltage. -/
theorem suspect_vBusError : vBusError suspectStore.getAllLatest = .ok (.finite 0) := by
  have values : vBusValues suspectStore.getAllLatest = [.float (.finite 12)] := rfl
  have total := pySum_singleton (show PyFloat.IsFloat 12 by decide +kernel)
  have quotient : PyNumber.divNat (.float (.finite 12)) 1 = .ok (.finite 12) := by decide +kernel
  have difference : (PyFloat.sub (.finite 12) (.finite vNominal)).rounded = .finite 0 := by
    decide +kernel
  rw [vBusError, meanVBus, values, total]
  simp only [bind, Except.bind, List.length_singleton, quotient, difference]
  rfl

/-- The node is the only one, so its 10 W are the total demand. -/
theorem suspect_pDemand : pDemand suspectStore.getAllLatest = .ok (.float (.finite 10)) := by
  have values : pBusValues suspectStore.getAllLatest = [.float (.finite 10)] := rfl
  rw [pDemand, values]
  exact pySum_singleton (by decide +kernel)

/-- The update of this store raises nothing. -/
theorem suspect_returns : (EMSCoordinator.init.update suspectStore 0).2 = .ok () := by
  apply EMSCoordinator.update_returns _ _ 0 suspect_vBusError suspect_pDemand nofun nofun
  intro entry member
  rw [List.mem_singleton.mp (show entry ∈ [_] from member)]
  exact ⟨1 / 10, suspect_trust⟩

/-- The condition at a node on a bus in its normal range: it does not get 0 W. -/
theorem suspect_zero_iff :
    (EMSCoordinator.init.update suspectStore 0).1.setpoints.get? "node_a" = some (.finite 0) ↔
      ((0 : ℚ) ≤ -3 ∨ (3 : ℚ) ≤ 0) ∨ ((10 : ℚ) ≤ -10 ∨ (150 : ℚ) ≤ 10) :=
  untrusted_zero_iff .init suspectStore 0 "node_a" _ suspect_recorded (1 / 10) suspect_trust
    (by norm_num) (by norm_num) 0 10 suspect_vBusError _ suspect_pDemand rfl suspect_returns

/-- A node at a trust score of 0.10, on a bus at 12 V with a demand of 10 W, does not get
0 W from an update that raises nothing. -/
theorem suspect_gets_power :
    suspectStore.getLatest "node_a"
        = some (Fields.setdefault suspectReading "server_ts" (.float (.finite 0))) ∧
      TrustScore (Fields.setdefault suspectReading "server_ts" (.float (.finite 0))) (1 / 10) ∧
      (EMSCoordinator.init.update suspectStore 0).2 = .ok () ∧
      (EMSCoordinator.init.update suspectStore 0).1.setpoints.get? "node_a" ≠ some (.finite 0) := by
  refine ⟨suspect_recorded, suspect_trust, suspect_returns, fun isolated => ?_⟩
  obtain ⟨sp, inferred, zero⟩ :=
    @untrusted_setpoint (1 / 10) (by norm_num) (by norm_num) 0 10 (.float (.finite 10)) rfl _
      suspect_trust
  obtain ⟨stored, same, kept⟩ := EMSCoordinator.update_stored .init suspectStore 0 suspect_recorded
    suspect_vBusError suspect_pDemand suspect_returns
  rw [inferred] at same
  rw [isolated, ← Except.ok.inj same, Option.some.injEq] at kept
  exact zero.mp kept.symm (by norm_num)

end Microgrid.Ems
