import Microgrid.Ems.OverVoltage
import Microgrid.Ems.RisingSetpoint
import Microgrid.Ems.TrustMonotonicity

/-!
# The sign of the voltage control

Does a trusted node ever get more power at a higher bus voltage? Its heights depend on the
degrees of the demand and on one degree of the voltage: between the breakpoints of the
voltage sets there are three stretches, and the law holds if on the outer two the setpoint
does not rise, and on the middle one, where the voltage is nominal to three quarters at
least, it does not move (`sign_iff`).
-/

namespace Microgrid.Ems

open PythonValues FuzzyControl

/-- The heights near the nominal voltage: `a`, `m` and `b` are the degrees of low, moderate
and high demand and `v` is the degree of nominal voltage. -/
def nominalVoltage (a m b v : ℚ) : OutLabel → ℚ := cuts 0 (min v a) (min v m) (min v b) 0

section Heights

variable {e p t : ℚ}

/-- No degree of a demand is negative. -/
theorem pdDegree_nonneg (level : Level) (p : ℚ) : 0 ≤ pdDegree level p := by
  cases level with
  | low => exact trapezoid_nonneg _ _ _ _ _
  | med => exact triangle_nonneg _ _ _ _
  | high => exact trapezoid_nonneg _ _ _ _ _

/-- The heights of a trusted node. -/
theorem height_trusted (high : 80 / 100 ≤ t) (atMostOne : t ≤ 1) (e p : ℚ) :
    height e p t = cuts (min (vbeDegree .high e) (pdDegree .low p))
      (max (min (vbeDegree .med e) (pdDegree .low p)) (min (vbeDegree .high e) (pdDegree .med p)))
      (max (min (vbeDegree .low e) (pdDegree .low p))
        (max (min (vbeDegree .med e) (pdDegree .med p)) (min (vbeDegree .high e) (pdDegree .high p))))
      (max (min (vbeDegree .low e) (pdDegree .med p)) (min (vbeDegree .med e) (pdDegree .high p)))
      (min (vbeDegree .low e) (pdDegree .high p)) := by
  have voltage (level : Level) : 0 ≤ vbeDegree level e ∧ vbeDegree level e ≤ 1 := by
    cases level with
    | low => exact ⟨trapezoid_nonneg _ _ _ _ _, trapezoid_le_one _ _ _ _ _⟩
    | med => exact ⟨triangle_nonneg _ _ _ _, triangle_le_one _ _ _ _⟩
    | high => exact ⟨trapezoid_nonneg _ _ _ _ _, trapezoid_le_one _ _ _ _ _⟩
  have reached (level level' : Level) : 0 ≤ min (vbeDegree level e) (pdDegree level' p) :=
    le_min (voltage level).1 (pdDegree_nonneg level' p)
  have strong (rule : Rule) : strength e p t rule =
      if rule.trMf = .trusted then min (vbeDegree rule.vbeMf e) (pdDegree rule.pdMf p) else 0 := by
    rw [strength, trDegree_high high atMostOne]
    split_ifs
    · rw [min_eq_right (voltage _).2]
    · rw [min_eq_left (voltage _).1, min_eq_left (pdDegree_nonneg _ p)]
  funext label
  cases label <;> simp [height, rules, peak, evaluated, strong, reached]

/-- Under voltage, along the degree of nominal voltage. -/
theorem height_under (high : 80 / 100 ≤ t) (atMostOne : t ≤ 1) (p : ℚ) (lowest : -3 < e)
    (under : e ≤ -1 / 5) : height e p t = underVoltage (pdDegree .low p) (pdDegree .med p)
      (pdDegree .high p) (max 0 (1 + 5 / 4 * e)) := by
  have nominal : vbeDegree .med e = max 0 (1 + 5 / 4 * e) := by
    simp only [vbeDegree, triangle]
    split_ifs <;> grind
  have low : vbeDegree .low e = 1 - 4 / 3 * max 0 (1 + 5 / 4 * e) := by
    simp only [vbeDegree, trapezoid]
    split_ifs <;> grind
  have none : vbeDegree .high e = 0 := by
    simp only [vbeDegree, trapezoid]
    split_ifs <;> grind
  have answered (level : Level) : 0 ≤ pdDegree level p := pdDegree_nonneg level p
  rw [height_trusted high atMostOne, nominal, low, none, underVoltage]
  funext label
  cases label <;> simp [answered]

/-- Near the nominal voltage. -/
theorem height_nominal (high : 80 / 100 ≤ t) (atMostOne : t ≤ 1) (p : ℚ) (first : -1 / 5 ≤ e)
    (last : e ≤ 1 / 5) : height e p t = nominalVoltage (pdDegree .low p) (pdDegree .med p)
      (pdDegree .high p) (1 - 5 / 4 * |e|) := by
  have nominal : vbeDegree .med e = 1 - 5 / 4 * |e| := by
    simp only [vbeDegree, triangle]
    split_ifs <;> grind
  have low : vbeDegree .low e = 0 := by
    simp only [vbeDegree, trapezoid]
    split_ifs <;> grind
  have none : vbeDegree .high e = 0 := by
    simp only [vbeDegree, trapezoid]
    split_ifs <;> grind
  have answered (level : Level) : 0 ≤ pdDegree level p := pdDegree_nonneg level p
  have positive : 5 / 4 * |e| ≤ 1 := by
    have small := abs_le.mpr ⟨by linarith, last⟩
    linarith
  rw [height_trusted high atMostOne, nominal, low, none, nominalVoltage]
  funext label
  cases label <;> simp [answered, positive]

/-- Over voltage, along its degree. -/
theorem height_over (high : 80 / 100 ≤ t) (atMostOne : t ≤ 1) (p : ℚ) (least : 1 / 5 ≤ e)
    (highest : e < 3) : height e p t = overVoltage (pdDegree .low p) (pdDegree .med p)
      (pdDegree .high p) (min 1 (5 / 3 * e - 1 / 3)) := by
  have nominal : vbeDegree .med e = 3 / 4 * (1 - min 1 (5 / 3 * e - 1 / 3)) := by
    simp only [vbeDegree, triangle]
    split_ifs <;> grind
  have low : vbeDegree .low e = 0 := by
    simp only [vbeDegree, trapezoid]
    split_ifs <;> grind
  have above : vbeDegree .high e = min 1 (5 / 3 * e - 1 / 3) := by
    simp only [vbeDegree, trapezoid]
    split_ifs <;> grind
  have answered (level : Level) : 0 ≤ pdDegree level p := pdDegree_nonneg level p
  rw [height_trusted high atMostOne, nominal, low, above, overVoltage]
  funext label
  cases label <;> simp [answered]

/-- Every degree of nominal voltage up to three quarters occurs under voltage. -/
theorem height_of_under (high : 80 / 100 ≤ t) (atMostOne : t ≤ 1) (p : ℚ) {d : ℚ}
    (inside : d ∈ Set.Icc 0 (3 / 4)) : height (4 / 5 * (d - 1)) p t =
      underVoltage (pdDegree .low p) (pdDegree .med p) (pdDegree .high p) d := by
  obtain ⟨first, last⟩ := inside
  have degree : max 0 (1 + 5 / 4 * (4 / 5 * (d - 1))) = d := by
    rw [max_eq_right (by linarith)]
    ring
  rw [height_under high atMostOne p (by linarith) (by linarith), degree]

/-- Every degree from three quarters on occurs on both sides of the nominal voltage. -/
theorem height_of_nominal (high : 80 / 100 ≤ t) (atMostOne : t ≤ 1) (p : ℚ) {v : ℚ}
    (inside : v ∈ Set.Icc (3 / 4) 1) :
    height (-(4 / 5 * (1 - v))) p t =
        nominalVoltage (pdDegree .low p) (pdDegree .med p) (pdDegree .high p) v ∧
      height (4 / 5 * (1 - v)) p t =
        nominalVoltage (pdDegree .low p) (pdDegree .med p) (pdDegree .high p) v := by
  obtain ⟨first, last⟩ := inside
  have degree : 1 - 5 / 4 * |4 / 5 * (1 - v)| = v := by
    rw [abs_of_nonneg (by linarith)]
    ring
  constructor
  · rw [height_nominal high atMostOne p (by linarith) (by linarith), abs_neg, degree]
  · rw [height_nominal high atMostOne p (by linarith) (by linarith), degree]

/-- Every degree of over voltage occurs. -/
theorem height_of_over (high : 80 / 100 ≤ t) (atMostOne : t ≤ 1) (p : ℚ) {d : ℚ}
    (inside : d ∈ Set.Icc 0 1) : height (1 / 5 + 3 / 5 * d) p t =
      overVoltage (pdDegree .low p) (pdDegree .med p) (pdDegree .high p) d := by
  obtain ⟨first, last⟩ := inside
  have degree : min 1 (5 / 3 * (1 / 5 + 3 / 5 * d) - 1 / 3) = d := by
    rw [min_eq_right (by linarith)]
    ring
  rw [height_over high atMostOne p (by linarith) (by linarith), degree]

end Heights

section Law

/-- At an input, the higher of two voltage errors commands no more power than the lower. -/
def VoltageSign (e e' p t : ℚ) : Prop :=
  ∃ sp sp', fuzzyInfer (.finite e) (.finite p) (.finite t) = .ok (.finite sp) ∧
    fuzzyInfer (.finite e') (.finite p) (.finite t) = .ok (.finite sp') ∧ sp' ≤ sp

/-- The law compares two setpoints. -/
theorem voltageSign_iff (e e' p t : ℚ) :
    VoltageSign e e' p t ↔ setpointOf (height e' p t) ≤ setpointOf (height e p t) := by
  constructor
  · rintro ⟨sp, sp', first, second, ordered⟩
    rw [fuzzyInfer_heights] at first second
    rw [setpointOf, setpointOf, PyFloat.finite.inj (Except.ok.inj first),
      PyFloat.finite.inj (Except.ok.inj second)]
    exact ordered
  · exact fun ordered => ⟨_, _, fuzzyInfer_heights e p t, fuzzyInfer_heights e' p t, ordered⟩

/-- The law for the degrees of a demand, on the three stretches of the voltage. -/
structure Signed (a m b : ℚ) : Prop where
  under : AntitoneOn (fun d => setpointOf (underVoltage a m b d)) (Set.Icc 0 (3 / 4))
  nominal : ∀ v, 3 / 4 ≤ v → v ≤ 1 →
    setpointOf (nominalVoltage a m b v) = setpointOf (nominalVoltage a m b (3 / 4))
  above : AntitoneOn (fun d => setpointOf (overVoltage a m b d)) (Set.Icc 0 1)

variable {p t : ℚ}

/-- The stretches cover all voltages between the corners, where some rule always fires. -/
theorem sign_iff (high : 80 / 100 ≤ t) (atMostOne : t ≤ 1) (p : ℚ) :
    (∀ e e', -3 < e → e ≤ e' → e' < 3 → VoltageSign e e' p t) ↔
      Signed (pdDegree .low p) (pdDegree .med p) (pdDegree .high p) := by
  simp only [voltageSign_iff]
  constructor
  · intro law
    constructor
    · intro d inside d' inside' ordered
      have lower := law (4 / 5 * (d - 1)) (4 / 5 * (d' - 1)) (by linarith [inside.1])
        (by linarith) (by linarith [inside'.2])
      rwa [height_of_under high atMostOne p inside, height_of_under high atMostOne p inside']
        at lower
    · -- the degree rises and falls again, and ends where it began
      intro v first last
      obtain ⟨left, right⟩ := height_of_nominal high atMostOne p ⟨le_rfl, by norm_num⟩
      obtain ⟨between, -⟩ := height_of_nominal high atMostOne p ⟨first, last⟩
      have rising := law (-(4 / 5 * (1 - 3 / 4))) (-(4 / 5 * (1 - v))) (by norm_num) (by linarith)
        (by linarith)
      have falling := law (-(4 / 5 * (1 - v))) (4 / 5 * (1 - 3 / 4)) (by linarith) (by linarith)
        (by norm_num)
      rw [left, between] at rising
      rw [right, between] at falling
      exact le_antisymm rising falling
    · intro d inside d' inside' ordered
      have lower := law (1 / 5 + 3 / 5 * d) (1 / 5 + 3 / 5 * d') (by linarith [inside.1])
        (by linarith) (by linarith [inside'.2])
      rwa [height_of_over high atMostOne p inside, height_of_over high atMostOne p inside']
        at lower
  · intro signed e e' lowest ordered highest
    have under : AntitoneOn (fun e => setpointOf (height e p t)) (Set.Ioc (-3) (-1 / 5)) := by
      intro e inside e' inside' ordered
      simp only [height_under high atMostOne p inside.1 inside.2,
        height_under high atMostOne p inside'.1 inside'.2]
      apply signed.under
      · exact ⟨le_max_left _ _, max_le (by norm_num) (by linarith [inside.2])⟩
      · exact ⟨le_max_left _ _, max_le (by norm_num) (by linarith [inside'.2])⟩
      · exact max_le_max_left 0 (by linarith)
    have nominal : AntitoneOn (fun e => setpointOf (height e p t)) (Set.Icc (-1 / 5) (1 / 5)) := by
      have constant {e : ℚ} (inside : e ∈ Set.Icc (-1 / 5 : ℚ) (1 / 5)) :
          setpointOf (height e p t) = setpointOf (nominalVoltage (pdDegree .low p)
            (pdDegree .med p) (pdDegree .high p) (3 / 4)) := by
        have small : |e| ≤ 1 / 5 := abs_le.mpr ⟨by linarith [inside.1], inside.2⟩
        rw [height_nominal high atMostOne p inside.1 inside.2]
        exact signed.nominal _ (by linarith) (by linarith [abs_nonneg e])
      intro e inside e' inside' _
      simp only [constant inside, constant inside', le_refl]
    have above : AntitoneOn (fun e => setpointOf (height e p t)) (Set.Ico (1 / 5) 3) := by
      intro e inside e' inside' ordered
      simp only [height_over high atMostOne p inside.1 inside.2,
        height_over high atMostOne p inside'.1 inside'.2]
      apply signed.above
      · exact ⟨le_min zero_le_one (by linarith [inside.1]), min_le_left _ _⟩
      · exact ⟨le_min zero_le_one (by linarith [inside'.1]), min_le_left _ _⟩
      · exact min_le_min_left 1 (by linarith)
    have early : AntitoneOn (fun e => setpointOf (height e p t)) (Set.Ioc (-3) (1 / 5)) := by
      rw [← Set.Ioc_union_Icc_eq_Ioc (show (-3 : ℚ) < -1 / 5 by norm_num) (by norm_num)]
      exact under.union_right nominal (isGreatest_Ioc (by norm_num)) (isLeast_Icc (by norm_num))
    have all : AntitoneOn (fun e => setpointOf (height e p t)) (Set.Ioo (-3) 3) := by
      rw [← Set.Ioc_union_Ico_eq_Ioo (show (-3 : ℚ) < 1 / 5 by norm_num) (by norm_num)]
      exact early.union_right above (isGreatest_Ioc (by norm_num)) (isLeast_Ico (by norm_num))
    exact all ⟨lowest, by linarith⟩ ⟨by linarith, highest⟩ ordered

end Law

section Demands

variable {a m b : ℚ}

/-- Where no set of the demand holds beyond three quarters, nothing moves near the nominal
voltage. -/
theorem nominal_rests (low : a ≤ 3 / 4) (med : m ≤ 3 / 4) (high : b ≤ 3 / 4) :
    ∀ v, 3 / 4 ≤ v → v ≤ 1 →
      setpointOf (nominalVoltage a m b v) = setpointOf (nominalVoltage a m b (3 / 4)) := by
  intro v first _
  have same : nominalVoltage a m b v = nominalVoltage a m b (3 / 4) := by
    rw [nominalVoltage, nominalVoltage, min_eq_right (low.trans first), min_eq_right low,
      min_eq_right (med.trans first), min_eq_right med, min_eq_right (high.trans first),
      min_eq_right high]
  rw [same]

/-- From 32 W to 42.5 W and from 57.5 W to 60 W. -/
theorem signed_light (demand : LightDemand a m) : Signed a m 0 := by
  constructor
  · exact light_under demand
  · exact nominal_rests (demand.little.trans (by norm_num)) demand.moderate (by norm_num)
  · exact light_over demand

/-- From 60 W to 64.73 W. -/
theorem signed_rising (nonneg : 0 ≤ b) (little : b ≤ 12095 / 51096)
    (moderate : m = 2 / 3 * (1 - b)) : Signed 0 m b := by
  constructor
  · exact rising_under nonneg (by linarith) moderate
  · apply nominal_rests <;> linarith
  · exact rising_over nonneg little moderate

/-- At 68 W, where moderate and high demand are balanced. -/
theorem signed_balanced : Signed 0 (2 / 5) (2 / 5) := by
  constructor
  · apply rising_under <;> norm_num
  · apply nominal_rests <;> norm_num
  · apply high_over <;> norm_num

/-- From 72.56 W to 75 W. -/
theorem signed_high (least : 216327 / 344480 ≤ b) (most : b ≤ 3 / 4)
    (moderate : m = 2 / 3 * (1 - b)) : Signed 0 m b := by
  constructor
  · exact high_under least most moderate
  · apply nominal_rests <;> linarith
  · exact high_over (by linarith) most moderate

/-- HIGH alone keeps the setpoint at 70 W, at every height. -/
theorem high_alone {v v' : ℚ} (positive : 0 < v) (most : v ≤ 1) (positive' : 0 < v')
    (most' : v' ≤ 1) : setpointOf (cuts 0 0 0 v' 0) ≤ setpointOf (cuts 0 0 0 v 0) := by
  have balanced {v : ℚ} (positive : 0 < v) (most : v ≤ 1) : torqueAt 280 (cuts 0 0 0 v 0) = 0 := by
    apply le_antisymm
    · exact torque_70_nonpos le_rfl le_rfl le_rfl ⟨positive.le, most⟩
    · exact torque_70_nonneg ⟨positive.le, most⟩ le_rfl
  have mass := @mass_of_height (cuts 0 0 0 v 0) .high positive
  have mass' := @mass_of_height (cuts 0 0 0 v' 0) .high positive'
  have rests : torqueAt 280 (cuts 0 0 0 v' 0) ≤ torqueAt 280 (cuts 0 0 0 v 0) := by
    rw [balanced positive most, balanced positive' most']
  exact centroid_le_of_torque mass mass' (balanced positive' most').ge (balanced positive most).le
    rests rests

/-- From 80 W, where only HIGH is answered near the nominal voltage. -/
theorem signed_full : Signed 0 0 1 := by
  constructor
  · exact full_under
  · intro v first last
    have shape {v : ℚ} (first : 3 / 4 ≤ v) (last : v ≤ 1) :
        nominalVoltage 0 0 1 v = cuts 0 0 0 v 0 := by
      rw [nominalVoltage, min_eq_right (by linarith), min_eq_left last]
    rw [shape first last, shape le_rfl (by norm_num)]
    apply le_antisymm
    · apply high_alone <;> linarith
    · apply high_alone <;> linarith
  · exact full_over

/-- Below 25 W. -/
theorem unsigned_low (high : 3 / 4 < a) (most : a ≤ 1) (nonneg : 0 ≤ m) (little : m ≤ 1 / 6) :
    ¬Signed a m 0 := by
  intro signed
  have same := signed.nominal 1 (by norm_num) le_rfl
  have falls := low_falls high most nonneg
  have first : nominalVoltage a m 0 1 = cuts 0 a m 0 0 := by
    funext label
    cases label <;> simp only [nominalVoltage, cuts] <;> grind
  have last : nominalVoltage a m 0 (3 / 4) = cuts 0 (3 / 4) m 0 0 := by
    funext label
    cases label <;> simp only [nominalVoltage, cuts] <;> grind
  rw [first, last] at same
  exact falls.ne same

/-- From 25 W to 32 W. -/
theorem unsigned_beside_zero (least : 2 / 5 < a) (most : a ≤ 3 / 4) (moderate : m = 2 / 3 * (1 - a)) :
    ¬Signed a m 0 := by
  intro signed
  set l := min (3 / 4 * (1 - a)) a with named
  have first : overVoltage a m 0 (max a (1 - 4 / 3 * a)) = cuts a l m 0 0 := by
    funext label
    cases label <;> simp only [overVoltage, cuts] <;> grind
  have last : overVoltage a m 0 (1 - 4 / 3 * m) = cuts a m m 0 0 := by
    funext label
    cases label <;> simp only [overVoltage, cuts] <;> grind
  have falls : setpointOf (cuts a l m 0 0) < setpointOf (cuts a m m 0 0) := by
    apply low_falls_beside_zero
    all_goals grind
  rw [← first, ← last] at falls
  have ordered : max a (1 - 4 / 3 * a) ≤ 1 - 4 / 3 * m := by
    apply max_le <;> linarith
  apply falls.not_ge (signed.above ⟨_, _⟩ ⟨_, _⟩ ordered)
  all_goals grind

/-- From 42.5 W to 57.5 W. -/
theorem unsigned_med (high : 3 / 4 < m) (most : m ≤ 1) : ¬Signed 0 m 0 := by
  intro signed
  have same := signed.nominal 1 (by norm_num) le_rfl
  have falls := med_falls high most
  have first : nominalVoltage 0 m 0 1 = cuts 0 0 m 0 0 := by
    funext label
    cases label <;> simp only [nominalVoltage, cuts] <;> grind
  have last : nominalVoltage 0 m 0 (3 / 4) = cuts 0 0 (3 / 4) 0 0 := by
    funext label
    cases label <;> simp only [nominalVoltage, cuts] <;> grind
  rw [first, last] at same
  exact falls.ne same

/-- From 64.73 W to 68 W. -/
theorem unsigned_between (least : 12095 / 51096 < b) (most : b < 2 / 5)
    (moderate : m = 2 / 3 * (1 - b)) : ¬Signed 0 m b := by
  intro signed
  -- when over voltage cuts nothing off any more, MED falls alone
  have shape {d : ℚ} (cut : m ≤ d) (med : 3 / 4 * (1 - d) ≤ m) (high : b ≤ 3 / 4 * (1 - d)) :
      overVoltage 0 m b d = cuts 0 m (3 / 4 * (1 - d)) b 0 := by
    funext label
    cases label <;> simp only [overVoltage, cuts] <;> grind
  rcases le_total b (3 / 10) with before | beyond
  · have falls := med_falls_between least before moderate
    have first : overVoltage 0 m b (23 / 45) = cuts 0 m (11 / 30) b 0 := by
      rw [shape (by linarith) (by linarith) (by linarith)]
      norm_num
    have last : overVoltage 0 m b (8 / 15) = cuts 0 m (7 / 20) b 0 := by
      rw [shape (by linarith) (by linarith) (by linarith)]
      norm_num
    rw [← first, ← last] at falls
    apply falls.not_ge (signed.above ⟨_, _⟩ ⟨_, _⟩ _)
    all_goals norm_num
  · have falls := med_falls_between_higher beyond most moderate
    have first : overVoltage 0 m b (7 / 15) = cuts 0 m (2 / 5) b 0 := by
      rw [shape (by linarith) (by linarith) (by linarith)]
      norm_num
    have last : overVoltage 0 m b (1 - 4 / 3 * max b (7 / 20)) = cuts 0 m (max b (7 / 20)) b 0 := by
      rw [shape (by grind) (by grind) (by grind)]
      congr 1
      ring
    rw [← first, ← last] at falls
    apply falls.not_ge (signed.above ⟨_, _⟩ ⟨_, _⟩ _)
    all_goals grind

/-- From 68 W to 72.56 W. -/
theorem unsigned_between_higher (least : 2 / 5 < b) (most : b < 216327 / 344480)
    (moderate : m = 2 / 3 * (1 - b)) : ¬Signed 0 m b := by
  intro signed
  have shape {d : ℚ} (cut : m ≤ d) (alone : d ≤ b) (high : b ≤ 1 - 4 / 3 * d) :
      underVoltage 0 m b d = cuts 0 0 m d b := by
    funext label
    cases label <;> simp only [underVoltage, cuts] <;> grind
  have raised : max m (11 / 40) < min b (3 / 4 * (1 - b)) := by
    apply max_lt <;> apply lt_min <;> linarith
  have atMost : min b (3 / 4 * (1 - b)) ≤ 1 := (min_le_left _ _).trans (by linarith)
  have rises := high_rises_between least most moderate raised atMost
  have first : underVoltage 0 m b (max m (11 / 40)) = cuts 0 0 m (max m (11 / 40)) b :=
    shape (le_max_left _ _) (by grind) (by grind)
  have last : underVoltage 0 m b (min b (3 / 4 * (1 - b)))
      = cuts 0 0 m (min b (3 / 4 * (1 - b))) b := shape (by grind) (by grind) (by grind)
  rw [← first, ← last] at rises
  apply rises.not_ge (signed.under ⟨_, _⟩ ⟨_, _⟩ raised.le)
  all_goals grind

/-- From 75 W to 80 W. -/
theorem unsigned_high (high : 3 / 4 < b) (most : b ≤ 1) (positive : 0 < m) (little : m ≤ 1 / 6) :
    ¬Signed 0 m b := by
  intro signed
  have same := signed.nominal 1 (by norm_num) le_rfl
  have rises := high_rises high most positive little
  have first : nominalVoltage 0 m b 1 = cuts 0 0 m b 0 := by
    funext label
    cases label <;> simp only [nominalVoltage, cuts] <;> grind
  have last : nominalVoltage 0 m b (3 / 4) = cuts 0 0 m (3 / 4) 0 := by
    funext label
    cases label <;> simp only [nominalVoltage, cuts] <;> grind
  rw [first, last] at same
  exact rises.ne same.symm

end Demands

section Watts

variable {p t : ℚ}

/-- The degree of low demand. -/
theorem pdDegree_low (nonneg : 0 ≤ p) : pdDegree .low p = max 0 (min 1 (2 - p / 20)) := by
  simp only [pdDegree, trapezoid]
  split_ifs <;> grind

/-- The degree of moderate demand. -/
theorem pdDegree_med (p : ℚ) : pdDegree .med p = max 0 (min (p / 30 - 2 / 3) (8 / 3 - p / 30)) := by
  simp only [pdDegree, triangle]
  split_ifs <;> grind

/-- The degree of high demand. -/
theorem pdDegree_high (small : p < 150) : pdDegree .high p = max 0 (min 1 (p / 20 - 3)) := by
  simp only [pdDegree, trapezoid]
  split_ifs <;> grind

/-- The demands at which voltage control has the right sign. -/
theorem voltage_sign_iff (nonneg : 0 ≤ p) (small : p < 150) (high : 80 / 100 ≤ t)
    (atMostOne : t ≤ 1) :
    (∀ e e', -3 < e → e ≤ e' → e' < 3 → VoltageSign e e' p t) ↔
      32 ≤ p ∧ p ≤ 85 / 2 ∨ 115 / 2 ≤ p ∧ p ≤ 826915 / 12774 ∨ p = 68 ∨
        1249767 / 17224 ≤ p ∧ p ≤ 75 ∨ 80 ≤ p := by
  rw [sign_iff high atMostOne, pdDegree_low nonneg, pdDegree_med, pdDegree_high small]
  constructor
  · contrapose!
    rintro ⟨light, rising, balanced, falling, full⟩
    rcases lt_or_ge p 40 with low | beyond
    · have none : max 0 (min 1 (p / 20 - 3)) = 0 := by grind
      rw [none]
      rcases lt_or_ge p 25 with first | second
      · apply unsigned_low <;> grind
      · apply unsigned_beside_zero <;> grind
    · have none : max 0 (min 1 (2 - p / 20)) = 0 := by grind
      rw [none]
      rcases lt_or_ge p (115 / 2) with third | later
      · have none : max 0 (min 1 (p / 20 - 3)) = 0 := by grind
        rw [none]
        apply unsigned_med <;> grind
      · rcases lt_or_ge p 68 with fourth | last
        · apply unsigned_between <;> grind
        · rcases lt_or_ge p (1249767 / 17224) with fifth | sixth
          · apply unsigned_between_higher <;> grind
          · apply unsigned_high <;> grind
  · rintro (⟨first, last⟩ | ⟨first, last⟩ | balanced | ⟨first, last⟩ | full)
    · have none : max 0 (min 1 (p / 20 - 3)) = 0 := by grind
      rw [none]
      apply signed_light
      constructor <;> grind
    · have none : max 0 (min 1 (2 - p / 20)) = 0 := by grind
      rw [none]
      rcases le_total p 60 with light | rising
      · have none : max 0 (min 1 (p / 20 - 3)) = 0 := by grind
        rw [none]
        apply signed_light
        constructor <;> grind
      · apply signed_rising <;> grind
    · subst balanced
      norm_num
      exact signed_balanced
    · have none : max 0 (min 1 (2 - p / 20)) = 0 := by grind
      rw [none]
      apply signed_high <;> grind
    · have low : max 0 (min 1 (2 - p / 20)) = 0 := by grind
      have med : max 0 (min (p / 30 - 2 / 3) (8 / 3 - p / 30)) = 0 := by grind
      have high : max 0 (min 1 (p / 20 - 3)) = 1 := by grind
      rw [low, med, high]
      exact signed_full

/-- At 40 W a node of full trust gets no more at 0.2 V above the nominal voltage than at it. -/
theorem voltage_sign_moderate : VoltageSign 0 (1 / 5) 40 1 :=
  (voltage_sign_iff (by norm_num) (by norm_num) (by norm_num) le_rfl).mpr
    (.inl ⟨by norm_num, by norm_num⟩) 0 (1 / 5) (by norm_num) (by norm_num) (by norm_num)

/-- At 10 W a node of full trust gets more on a bus 0.2 V above the nominal voltage than on a
nominal one: LOW, cut off at three quarters, has its centroid further up. -/
theorem higher_voltage_gets_more : ¬∀ t, 80 / 100 ≤ t → t ≤ 1 → ∀ p, 0 ≤ p → p < 150 →
    ∀ e e', -3 < e → e ≤ e' → e' < 3 → VoltageSign e e' p t := by
  intro always
  have ordered := always 1 (by norm_num) le_rfl 10 (by norm_num) (by norm_num) 0 (1 / 5)
    (by norm_num) (by norm_num) (by norm_num)
  have shape {e : ℚ} (first : -1 / 5 ≤ e) (last : e ≤ 1 / 5) :
      height e 10 1 = cuts 0 (1 - 5 / 4 * |e|) 0 0 0 := by
    have low : pdDegree .low 10 = 1 := by rw [pdDegree_low] <;> norm_num
    have med : pdDegree .med 10 = 0 := by rw [pdDegree_med]; norm_num
    have high : pdDegree .high 10 = 0 := by rw [pdDegree_high] <;> norm_num
    have small : |e| ≤ 1 / 5 := abs_le.mpr ⟨by linarith, last⟩
    rw [height_nominal (by norm_num) le_rfl 10 first last, low, med, high, nominalVoltage,
      min_eq_left (by linarith [abs_nonneg e]), min_eq_right (by linarith)]
  have nominal : height 0 10 1 = cuts 0 1 0 0 0 := by
    rw [shape (by norm_num) (by norm_num), abs_zero, mul_zero, sub_zero]
  have above : height (1 / 5) 10 1 = cuts 0 (3 / 4) 0 0 0 := by
    rw [shape (by norm_num) le_rfl, abs_of_nonneg (by norm_num)]
    norm_num
  rw [voltageSign_iff, nominal, above] at ordered
  exact (low_falls (by norm_num) le_rfl le_rfl).not_ge ordered

end Watts

end Microgrid.Ems
