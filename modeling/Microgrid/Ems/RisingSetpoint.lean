import Microgrid.Ems.SetpointPivots

/-!
# Where the setpoint rises with the voltage

Cutting an output set off moves its centroid, unless the set is symmetric. So where only one
set changes its height, it may move the setpoint in the wrong direction: LOW and MED, which
lean to the left, move it up when they fall, and HIGH moves it up when it rises above its
neighbours. The demands where this happens are found in the same way as the pivots.
-/

namespace Microgrid.Ems

open FuzzyControl

section OneSet

variable {quarters floor cap : ℤ} {label : OutLabel} {before after : OutLabel → ℚ}

/-- At the peak of an output set no other one is in the way. -/
theorem peak_alone (label : OutLabel) : ∃ y ∈ samples, outDegree label y = 1 ∧
    ∀ other ∈ outLabels, other = label ∨ outDegree other y ≤ 0 := by
  obtain ⟨nonneg, small, top, alone⟩ :
      0 ≤ (outSlopes label).peak ∧ (outSlopes label).peak ≤ 200 ∧
        grade label (outSlopes label).peak = 120 ∧
        ∀ other ∈ outLabels, other = label ∨ grade other (outSlopes label).peak = 0 := by
    cases label <;> decide
  refine ⟨(outSlopes label).peak / 2, (mem_samples_iff _).mpr ⟨_, nonneg, small, rfl⟩, ?_, ?_⟩
  · rw [outDegree_grade, top]
    norm_num
  · intro other listed
    rcases alone other listed with same | none
    · exact .inl same
    · right
      rw [outDegree_grade, none]
      norm_num

/-- A set that rises gives the union mass. -/
theorem mass_lt_of_raised (same : ∀ other, other ≠ label → after other = before other)
    (nonneg : 0 ≤ before label) (raised : before label < after label) (atMost : after label ≤ 1) :
    (samples.map (clippedAt before)).sum < (samples.map (clippedAt after)).sum := by
  obtain ⟨y, sample, top, alone⟩ := peak_alone label
  have gains : after label - before label ≤ clippedAt after y - clippedAt before y :=
    rise_le_gain (mem_outLabels label) same raised.le nonneg (atMost.trans_eq top.symm) alone
  apply List.sum_lt_sum
  · intro z _
    exact sub_nonneg.mp (gain_nonneg (mem_outLabels label) same raised.le z)
  · exact ⟨y, sample, by linarith⟩

/-- A set behind whose pivot the setpoint lies moves it up when it falls. -/
theorem setpoint_lt_of_lowered (fact : LowersTorque quarters label floor cap [])
    (same : ∀ other, other ≠ label → after other = before other)
    (above : (floor : ℚ) / 120 ≤ after label) (positive : 0 < after label)
    (lowered : after label < before label) (below : before label ≤ (cap : ℚ) / 120)
    (atMost : before label ≤ 1) (beyond : 0 < torqueAt quarters before) :
    setpointOf before < setpointOf after := by
  have turned : ∀ other, other ≠ label → before other = after other :=
    fun other apart => (same other apart).symm
  apply centroid_lt_of_torque (mass_of_height (positive.trans lowered)) (mass_of_height positive)
  · exact fact.torque_le turned above lowered.le below nofun
  · apply mul_neg_of_pos_of_neg beyond
    exact sub_neg.mpr (mass_lt_of_raised turned positive.le lowered atMost)

/-- A set before whose pivot the setpoint lies moves it up when it rises. -/
theorem setpoint_lt_of_raised (fact : RaisesTorque quarters label floor cap [])
    (same : ∀ other, other ≠ label → after other = before other)
    (above : (floor : ℚ) / 120 ≤ before label) (positive : 0 < before label)
    (raised : before label < after label) (below : after label ≤ (cap : ℚ) / 120)
    (atMost : after label ≤ 1) (ahead : torqueAt quarters before < 0) :
    setpointOf before < setpointOf after := by
  apply centroid_lt_of_torque (mass_of_height positive) (mass_of_height (positive.trans raised))
  · exact fact.torque_le same above raised.le below nofun
  · apply mul_neg_of_neg_of_pos ahead
    exact sub_pos.mpr (mass_lt_of_raised same positive.le raised atMost)

end OneSet

section Demands

variable {a l m b : ℚ}

/-- The height of LOW is its own. -/
theorem cuts_low {z l l' m h x : ℚ} {other : OutLabel} (apart : other ≠ .low) :
    cuts z l' m h x other = cuts z l m h x other := by
  cases other with
  | low => exact absurd rfl apart
  | zero | med | high | max => rfl

/-- The height of MED is its own. -/
theorem cuts_med {z l m m' h x : ℚ} {other : OutLabel} (apart : other ≠ .med) :
    cuts z l m' h x other = cuts z l m h x other := by
  cases other with
  | med => exact absurd rfl apart
  | zero | low | high | max => rfl

/-- The height of HIGH is its own. -/
theorem cuts_high {z l m h h' x : ℚ} {other : OutLabel} (apart : other ≠ .high) :
    cuts z l m h' x other = cuts z l m h x other := by
  cases other with
  | high => exact absurd rfl apart
  | zero | low | med | max => rfl

/-- Below 25 W, when LOW falls to three quarters. -/
theorem low_falls (high : 3 / 4 < a) (most : a ≤ 1) (nonneg : 0 ≤ m) :
    setpointOf (cuts 0 a m 0 0) < setpointOf (cuts 0 (3 / 4) m 0 0) := by
  have corner : 0 < torqueAt 64 (cuts 0 1 0 0 0) := by
    apply corner_pos 1 0 120 0 0 0 (by decide)
    intro label
    cases label <;> norm_num
  have fact : LowersTorque 64 .low 90 120 [] := lowers (by decide)
  have beyond : torqueAt 64 (cuts 0 1 0 0 0) ≤ torqueAt 64 (cuts 0 a m 0 0) := by
    apply torque_le_low (by norm_num) (by norm_num) ⟨le_rfl, le_rfl⟩ _ ⟨le_rfl, nonneg⟩
      ⟨le_rfl, le_rfl⟩ ⟨le_rfl, le_rfl⟩
    apply Drift.rises fact
    · norm_num
      exact high.le
    · exact most
    · norm_num
    · simp
  apply setpoint_lt_of_lowered fact
  · intro other apart
    exact cuts_low apart
  · norm_num
  · norm_num
  · exact high
  · norm_num
    exact most
  · exact most
  · exact corner.trans_le beyond

/-- From 25 W to 32 W, when LOW falls beside ZERO. -/
theorem low_falls_beside_zero (nonneg : 0 ≤ a) (zero : a ≤ 3 / 4) (least : 1 / 6 ≤ m)
    (lowered : m < l) (most : l ≤ 9 / 20) :
    setpointOf (cuts a l m 0 0) < setpointOf (cuts a m m 0 0) := by
  have corner : 0 < torqueAt 72 (cuts (3 / 4) (9 / 20) (1 / 6) 0 0) := by
    apply corner_pos 1 90 54 20 0 0 (by decide)
    intro label
    cases label <;> norm_num
  have fact : LowersTorque 72 .low 20 120 [] := lowers (by decide)
  have beyond : torqueAt 72 (cuts (3 / 4) (9 / 20) (1 / 6) 0 0) ≤ torqueAt 72 (cuts a l m 0 0) := by
    apply torque_le_low (by norm_num) (by norm_num) ⟨nonneg, zero⟩ _ ⟨by norm_num, least⟩
      ⟨le_rfl, le_rfl⟩ ⟨le_rfl, le_rfl⟩
    apply Drift.rises fact
    · norm_num
      linarith
    · exact most
    · norm_num
    · simp
  apply setpoint_lt_of_lowered fact
  · intro other apart
    exact cuts_low apart
  · norm_num
    exact least
  · exact lt_of_lt_of_le (by norm_num) least
  · exact lowered
  · norm_num
    linarith
  · exact most.trans (by norm_num)
  · exact corner.trans_le beyond

/-- From 42.5 W to 57.5 W, when MED falls to three quarters. -/
theorem med_falls (high : 3 / 4 < m) (most : m ≤ 1) :
    setpointOf (cuts 0 0 m 0 0) < setpointOf (cuts 0 0 (3 / 4) 0 0) := by
  have corner : 0 < torqueAt 164 (cuts 0 0 1 0 0) := by
    apply corner_pos 1 0 0 120 0 0 (by decide)
    intro label
    cases label <;> norm_num
  have fact : LowersTorque 164 .med 90 120 [] := lowers (by decide)
  have beyond : torqueAt 164 (cuts 0 0 1 0 0) ≤ torqueAt 164 (cuts 0 0 m 0 0) := by
    apply torque_le_med (by norm_num) (by norm_num) ⟨le_rfl, le_rfl⟩ ⟨le_rfl, le_rfl⟩ _
      ⟨le_rfl, le_rfl⟩ ⟨le_rfl, le_rfl⟩
    apply Drift.rises fact
    · norm_num
      exact high.le
    · exact most
    · norm_num
    · simp
  apply setpoint_lt_of_lowered fact
  · intro other apart
    exact cuts_med apart
  · norm_num
  · norm_num
  · exact high
  · norm_num
    exact most
  · exact most
  · exact corner.trans_le beyond

/-- From 64.73 W to 66 W, when MED falls beside LOW and HIGH. -/
theorem med_falls_between (least : 12095 / 51096 < b) (most : b ≤ 3 / 10)
    (moderate : m = 2 / 3 * (1 - b)) :
    setpointOf (cuts 0 m (11 / 30) b 0) < setpointOf (cuts 0 m (7 / 20) b 0) := by
  have corner : 0 ≤ torqueAt 166 (cuts 0 (39001 / 76644) (11 / 30) (12095 / 51096) 0) := by
    apply corner_nonneg 12774 0 780020 562056 362850 0 (by decide)
    intro label
    cases label <;> norm_num
  have low : torqueAt 166 (cuts 0 (39001 / 76644) (11 / 30) (12095 / 51096) 0)
      ≤ torqueAt 166 (cuts 0 m (11 / 30) (12095 / 51096) 0) := by
    apply torque_le_med (by norm_num) (by norm_num) ⟨le_rfl, le_rfl⟩ _ _ ⟨by norm_num, le_rfl⟩
      ⟨le_rfl, le_rfl⟩
    · constructor <;> linarith
    · exact .rests rfl
  have high : torqueAt 166 (cuts 0 m (11 / 30) (12095 / 51096) 0)
      ≤ torqueAt 166 (cuts 0 m (11 / 30) b 0) + (b - 12095 / 51096) * ((-4674 : ℤ) / 4) := by
    apply torqueAt_loss (@loss_counted 166 0 36 (-4674) .high (by decide))
    · intro other apart
      exact cuts_high apart
    · norm_num
    · norm_num
    · exact least.le
    · norm_num
      linarith
  have fact : LowersTorque 166 .med 42 44 [] := lowers (by decide)
  apply setpoint_lt_of_lowered fact
  · intro other apart
    exact cuts_med apart
  · norm_num
  · norm_num
  · norm_num
  · norm_num
  · norm_num
  · push_cast at high
    linarith

/-- From 66 W to 68 W, when MED falls beside LOW and HIGH. -/
theorem med_falls_between_higher (least : 3 / 10 ≤ b) (most : b < 2 / 5)
    (moderate : m = 2 / 3 * (1 - b)) :
    setpointOf (cuts 0 m (2 / 5) b 0) < setpointOf (cuts 0 m (max b (7 / 20)) b 0) := by
  have corner : 0 < torqueAt 168 (cuts 0 (7 / 15) (2 / 5) (3 / 10) 0) := by
    apply corner_pos 1 0 56 48 36 0 (by decide)
    intro label
    cases label <;> norm_num
  have beyond : torqueAt 168 (cuts 0 (7 / 15) (2 / 5) (3 / 10) 0)
      ≤ torqueAt 168 (cuts 0 m (2 / 5) b 0) := by
    apply torque_le_med (by norm_num) (by norm_num) ⟨le_rfl, le_rfl⟩ _ _ ⟨by norm_num, least⟩
      ⟨le_rfl, le_rfl⟩
    · constructor <;> linarith
    · exact .rests rfl
  have fact : LowersTorque 168 .med 42 48 [] := lowers (by decide)
  apply setpoint_lt_of_lowered fact
  · intro other apart
    exact cuts_med apart
  · apply le_max_of_le_right
    norm_num
  · exact lt_max_of_lt_right (by norm_num)
  · exact max_lt most (by norm_num)
  · norm_num
  · norm_num
  · exact corner.trans_le beyond

/-- MED keeps the setpoint below 70 W. -/
theorem med_lowers_torque_70 {high max m' : ℚ} (nonneg : 0 ≤ m) (raised : m ≤ m')
    (most : m' ≤ 2 / 5) : torqueAt 280 (cuts 0 0 m' high max)
      ≤ torqueAt 280 (cuts 0 0 m high max) + (m' - m) * ((-4602 : ℤ) / 4) := by
  apply torqueAt_gain (@gain_counted 280 0 48 (-4602) .med (by decide))
  · intro other apart
    exact cuts_med apart
  · exact nonneg
  · norm_num
    exact nonneg
  · exact raised
  · norm_num
    exact most

/-- From 68 W to 72.56 W, when HIGH rises beside MED and MAX. -/
theorem high_rises_between (least : 2 / 5 < b) (most : b < 216327 / 344480)
    (moderate : m = 2 / 3 * (1 - b)) {h : ℚ} (raised : max m (11 / 40) < h) (atMost : h ≤ 1) :
    setpointOf (cuts 0 0 m (max m (11 / 40)) b) < setpointOf (cuts 0 0 m h b) := by
  have corner : torqueAt 280 (cuts 0 0 (128153 / 516720) (11 / 40) (216327 / 344480)) ≤ 0 := by
    apply corner_nonpos 43060 0 0 1281530 1420980 3244905 (by decide)
    intro label
    cases label <;> norm_num
  have high : torqueAt 280 (cuts 0 0 (128153 / 516720) (max m (11 / 40)) b)
      ≤ torqueAt 280 (cuts 0 0 (128153 / 516720) (11 / 40) (216327 / 344480)) := by
    apply torque_70_rising
    all_goals grind
  have med := @med_lowers_torque_70 (128153 / 516720) (max m (11 / 40)) b m (by norm_num)
    (by linarith) (by linarith)
  have fact : RaisesTorque 280 .high 33 120 [] := raises (by decide)
  apply setpoint_lt_of_raised fact
  · intro other apart
    exact cuts_high apart
  · apply le_max_of_le_right
    norm_num
  · exact lt_max_of_lt_right (by norm_num)
  · exact raised
  · norm_num
    exact atMost
  · exact atMost
  · push_cast at med
    linarith

/-- From 75 W to 80 W, when HIGH rises from three quarters. -/
theorem high_rises (high : 3 / 4 < b) (most : b ≤ 1) (positive : 0 < m) (little : m ≤ 1 / 6) :
    setpointOf (cuts 0 0 m (3 / 4) 0) < setpointOf (cuts 0 0 m b 0) := by
  have alone : torqueAt 280 (cuts 0 0 0 (3 / 4) 0) ≤ 0 := by
    apply torque_70_nonpos
    all_goals norm_num
  have med := @med_lowers_torque_70 0 (3 / 4) 0 m le_rfl positive.le (by linarith)
  have fact : RaisesTorque 280 .high 33 120 [] := raises (by decide)
  apply setpoint_lt_of_raised fact
  · intro other apart
    exact cuts_high apart
  · norm_num
  · norm_num
  · exact high
  · norm_num
    exact most
  · exact most
  · push_cast at med
    linarith

end Demands

end Microgrid.Ems
