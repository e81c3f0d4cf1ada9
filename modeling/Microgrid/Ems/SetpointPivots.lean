import Mathlib.Order.Monotone.Union
import Microgrid.Ems.SetpointTorque

/-!
# The pivots

For each pivot, the changes of the five heights that do not raise the torque about it. Sets
that end before the pivot may rise and sets that begin behind it may fall; the lemmas say
what the set astride the pivot may do, and how deep the sets beside it must lie for that.

What has to be compared or counted over the samples for it, and the torques at the corners of
the stretches, are listed in tables and computed once for each table.
-/

namespace Microgrid.Ems

open FuzzyControl

variable {z l m h x z' l' m' h' x' : ℚ}

section Computed

/-- A pivot, a set, the floor and the cap between which it moves and the sets that lie no
higher. -/
structure Comparison where
  quarters : ℤ
  label : OutLabel
  floor : ℤ
  cap : ℤ
  shallow : List OutLabel
deriving DecidableEq

/-- Where raising the set lowers the torque. -/
def lowering : List Comparison :=
  [⟨64, .low, 90, 120, []⟩, ⟨72, .low, 20, 120, []⟩, ⟨80, .low, 0, 120, []⟩,
    ⟨164, .med, 90, 120, []⟩, ⟨166, .med, 42, 44, []⟩, ⟨166, .med, 60, 120, []⟩,
    ⟨168, .med, 42, 48, []⟩, ⟨168, .med, 80, 120, []⟩, ⟨172, .med, 0, 120, [.low]⟩,
    ⟨200, .med, 0, 120, []⟩, ⟨280, .high, 0, 120, [.med]⟩, ⟨320, .high, 0, 120, []⟩,
    ⟨340, .high, 0, 120, []⟩]

/-- Where raising the set raises the torque. -/
def raising : List Comparison :=
  [⟨160, .med, 0, 120, [.high]⟩, ⟨166, .med, 0, 45, [.high]⟩, ⟨167, .med, 44, 45, [.high]⟩,
    ⟨252, .high, 0, 120, []⟩, ⟨280, .high, 0, 120, [.max]⟩, ⟨280, .high, 33, 120, []⟩,
    ⟨340, .max, 0, 120, []⟩, ⟨372, .max, 48, 120, []⟩]

/-- The comparisons are made over the samples, for all of them at once. -/
theorem lowers {quarters floor cap : ℤ} {label : OutLabel} {shallow : List OutLabel}
    (listed : ⟨quarters, label, floor, cap, shallow⟩ ∈ lowering) :
    LowersTorque quarters label floor cap shallow := by
  have computed : ∀ entry ∈ lowering,
      LowersTorque entry.quarters entry.label entry.floor entry.cap entry.shallow := by
    decide +kernel
  exact computed _ listed

/-- And in the other direction. -/
theorem raises {quarters floor cap : ℤ} {label : OutLabel} {shallow : List OutLabel}
    (listed : ⟨quarters, label, floor, cap, shallow⟩ ∈ raising) :
    RaisesTorque quarters label floor cap shallow := by
  have computed : ∀ entry ∈ raising,
      RaisesTorque entry.quarters entry.label entry.floor entry.cap entry.shallow := by
    decide +kernel
  exact computed _ listed

/-- Given heights in parts of 120 times a scale, and a pivot. -/
structure Corner where
  quarters : ℤ
  scale : ℤ
  zero : ℤ
  low : ℤ
  med : ℤ
  high : ℤ
  max : ℤ
deriving DecidableEq

/-- The torque there. -/
def Corner.torque (corner : Corner) : ℤ :=
  gradeTorque corner.quarters corner.scale
    (cuts corner.zero corner.low corner.med corner.high corner.max)

/-- Where the centroid lies above the pivot. -/
def cornersAbove : List Corner :=
  [⟨80, 1, 0, 80, 30, 0, 0⟩, ⟨80, 2, 0, 180, 45, 0, 0⟩, ⟨80, 2, 96, 180, 45, 0, 0⟩,
    ⟨166, 1, 0, 0, 90, 0, 0⟩, ⟨166, 1, 0, 0, 120, 0, 0⟩, ⟨166, 3, 0, 45, 240, 40, 0⟩,
    ⟨166, 3, 0, 90, 210, 80, 0⟩, ⟨166, 12774, 0, 780020, 562056, 362850, 0⟩,
    ⟨172, 1, 0, 0, 60, 45, 0⟩, ⟨172, 1, 0, 48, 60, 40, 0⟩, ⟨172, 1, 0, 48, 72, 36, 0⟩,
    ⟨172, 2, 0, 64, 180, 45, 0⟩, ⟨172, 3, 0, 0, 240, 40, 0⟩,
    ⟨252, 1, 0, 0, 24, 84, 0⟩, ⟨252, 5, 0, 0, 136, 396, 40⟩,
    ⟨252, 43060, 0, 0, 1281530, 3244905, 620064⟩, ⟨280, 1, 0, 0, 0, 0, 0⟩,
    ⟨280, 43060, 0, 0, 1281530, 1446816, 3244905⟩]

/-- Where the centroid lies below the pivot. -/
def cornersBelow : List Corner :=
  [⟨160, 3, 0, 40, 240, 0, 0⟩, ⟨166, 12774, 0, 780020, 562056, 362850, 0⟩,
    ⟨167, 12774, 0, 780020, 574830, 362850, 0⟩, ⟨168, 1, 0, 0, 80, 0, 0⟩,
    ⟨200, 3, 0, 40, 180, 90, 0⟩, ⟨280, 1, 0, 0, 0, 0, 0⟩, ⟨280, 1, 0, 0, 30, 48, 48⟩,
    ⟨280, 43060, 0, 0, 1281530, 1420980, 3244905⟩, ⟨320, 2, 0, 0, 40, 45, 180⟩,
    ⟨340, 1, 0, 0, 0, 54, 48⟩, ⟨372, 1, 0, 0, 0, 0, 120⟩]

/-- Where it lies strictly above. -/
def cornersBeyond : List Corner :=
  [⟨64, 1, 0, 120, 0, 0, 0⟩, ⟨72, 1, 90, 54, 20, 0, 0⟩, ⟨164, 1, 0, 0, 120, 0, 0⟩,
    ⟨168, 1, 0, 56, 48, 36, 0⟩]

/-- The torques are computed, for all of them at once. -/
theorem corner_nonneg {quarters : ℤ} {heights : OutLabel → ℚ} (scale zero low med high max : ℤ)
    (listed : ⟨quarters, scale, zero, low, med, high, max⟩ ∈ cornersAbove)
    (exact : ∀ label, heights label = (cuts zero low med high max label : ℤ) / (120 * scale)) :
    0 ≤ torqueAt quarters heights := by
  have computed : ∀ corner ∈ cornersAbove, 0 < corner.scale ∧ 0 ≤ corner.torque := by
    decide +kernel
  obtain ⟨positive, sign⟩ := computed _ listed
  exact torqueAt_nonneg scale _ positive exact sign

/-- And below the pivot. -/
theorem corner_nonpos {quarters : ℤ} {heights : OutLabel → ℚ} (scale zero low med high max : ℤ)
    (listed : ⟨quarters, scale, zero, low, med, high, max⟩ ∈ cornersBelow)
    (exact : ∀ label, heights label = (cuts zero low med high max label : ℤ) / (120 * scale)) :
    torqueAt quarters heights ≤ 0 := by
  have computed : ∀ corner ∈ cornersBelow, 0 < corner.scale ∧ corner.torque ≤ 0 := by
    decide +kernel
  obtain ⟨positive, sign⟩ := computed _ listed
  exact torqueAt_nonpos scale _ positive exact sign

/-- And strictly above it. -/
theorem corner_pos {quarters : ℤ} {heights : OutLabel → ℚ} (scale zero low med high max : ℤ)
    (listed : ⟨quarters, scale, zero, low, med, high, max⟩ ∈ cornersBeyond)
    (exact : ∀ label, heights label = (cuts zero low med high max label : ℤ) / (120 * scale)) :
    0 < torqueAt quarters heights := by
  have computed : ∀ corner ∈ cornersBeyond, 0 < corner.scale ∧ 0 < corner.torque := by
    decide +kernel
  obtain ⟨positive, sign⟩ := computed _ listed
  exact torqueAt_pos scale _ positive exact sign

/-- A comparison with a count, in quarters. -/
structure Counted where
  quarters : ℤ
  label : OutLabel
  floor : ℤ
  cap : ℤ
  count : ℤ
deriving DecidableEq

/-- What raising the set by one adds to the torque at most. -/
def gains : List Counted :=
  [⟨168, .low, 0, 14, -3038⟩, ⟨200, .low, 0, 80, -2312⟩, ⟨252, .high, 22, 120, 2162⟩,
    ⟨280, .med, 0, 48, -4602⟩]

/-- What lowering the set by one adds to the torque at most. -/
def losses : List Counted :=
  [⟨166, .high, 0, 36, -4674⟩, ⟨168, .med, 80, 90, 140⟩, ⟨200, .med, 30, 120, 1806⟩,
    ⟨252, .max, 0, 90, -1638⟩]

/-- The gains are counted over the samples. -/
theorem gain_counted {quarters floor cap count : ℤ} {label : OutLabel}
    (listed : ⟨quarters, label, floor, cap, count⟩ ∈ gains) :
    (samples.map fun y => mostGain outLabels outDegree label ((floor : ℚ) / 120) (cap / 120)
      (y - quarters / 4) y).sum ≤ count / 4 := by
  have computed : ∀ entry ∈ gains, ((List.range 201).map fun (index : ℕ) => gradeGain entry.label
      entry.floor entry.cap (2 * index - entry.quarters) index).sum ≤ entry.count := by
    decide +kernel
  have exact (index : ℤ) : (index : ℚ) / 2 - quarters / 4 = (2 * index - quarters : ℤ) / 4 := by
    push_cast
    ring
  rw [sum_mostGain label floor cap exact]
  apply div_le_div_of_nonneg_right _ (by norm_num)
  exact_mod_cast computed _ listed

/-- And the losses. -/
theorem loss_counted {quarters floor cap count : ℤ} {label : OutLabel}
    (listed : ⟨quarters, label, floor, cap, count⟩ ∈ losses) :
    (samples.map fun y => mostGain outLabels outDegree label ((floor : ℚ) / 120) (cap / 120)
      (quarters / 4 - y) y).sum ≤ count / 4 := by
  have computed : ∀ entry ∈ losses, ((List.range 201).map fun (index : ℕ) => gradeGain entry.label
      entry.floor entry.cap (entry.quarters - 2 * index) index).sum ≤ entry.count := by
    decide +kernel
  have exact (index : ℤ) : (quarters : ℚ) / 4 - index / 2 = (quarters - 2 * index : ℤ) / 4 := by
    push_cast
    ring
  rw [sum_mostGain label floor cap exact]
  apply div_le_div_of_nonneg_right _ (by norm_num)
  exact_mod_cast computed _ listed

end Computed

section Astride

variable {quarters : ℤ}

/-- Only LOW lies astride a pivot between 10 W and 25 W. -/
theorem torque_le_low (first : 40 ≤ quarters) (last : quarters ≤ 100) (zero : 0 ≤ z ∧ z ≤ z')
    (low : Drift quarters (cuts z l m h x) (cuts z' l' m' h' x') .low) (med : 0 ≤ m' ∧ m' ≤ m)
    (high : 0 ≤ h' ∧ h' ≤ h) (max : 0 ≤ x' ∧ x' ≤ x) :
    torqueAt quarters (cuts z' l' m' h' x') ≤ torqueAt quarters (cuts z l m h x) := by
  apply torque_le_of_drift
  intro label
  cases label with
  | zero => exact .ahead (by simpa [outSlopes] using first) zero.1 zero.2
  | low => exact low
  | med => exact .behind (by simpa [outSlopes] using last) med.1 med.2
  | high => exact .behind (by simp [outSlopes]; omega) high.1 high.2
  | max => exact .behind (by simp [outSlopes]; omega) max.1 max.2

/-- Only MED lies astride a pivot between 30 W and 50 W. -/
theorem torque_le_med (first : 120 ≤ quarters) (last : quarters ≤ 200) (zero : 0 ≤ z ∧ z ≤ z')
    (low : 0 ≤ l ∧ l ≤ l') (med : Drift quarters (cuts z l m h x) (cuts z' l' m' h' x') .med)
    (high : 0 ≤ h' ∧ h' ≤ h) (max : 0 ≤ x' ∧ x' ≤ x) :
    torqueAt quarters (cuts z' l' m' h' x') ≤ torqueAt quarters (cuts z l m h x) := by
  apply torque_le_of_drift
  intro label
  cases label with
  | zero => exact .ahead (by simp [outSlopes]; omega) zero.1 zero.2
  | low => exact .ahead (by simpa [outSlopes] using first) low.1 low.2
  | med => exact med
  | high => exact .behind (by simpa [outSlopes] using last) high.1 high.2
  | max => exact .behind (by simp [outSlopes]; omega) max.1 max.2

/-- Only HIGH lies astride a pivot between 60 W and 80 W. -/
theorem torque_le_high (first : 240 ≤ quarters) (last : quarters ≤ 320) (zero : 0 ≤ z ∧ z ≤ z')
    (low : 0 ≤ l ∧ l ≤ l') (med : 0 ≤ m ∧ m ≤ m')
    (high : Drift quarters (cuts z l m h x) (cuts z' l' m' h' x') .high) (max : 0 ≤ x' ∧ x' ≤ x) :
    torqueAt quarters (cuts z' l' m' h' x') ≤ torqueAt quarters (cuts z l m h x) := by
  apply torque_le_of_drift
  intro label
  cases label with
  | zero => exact .ahead (by simp [outSlopes]; omega) zero.1 zero.2
  | low => exact .ahead (by simp [outSlopes]; omega) low.1 low.2
  | med => exact .ahead (by simpa [outSlopes] using first) med.1 med.2
  | high => exact high
  | max => exact .behind (by simpa [outSlopes] using last) max.1 max.2

end Astride

section Pivots

/-- About 20 W, LOW may rise. -/
theorem torque_20 (zero : 0 ≤ z ∧ z ≤ z') (low : 0 ≤ l ∧ l ≤ l' ∧ l' ≤ 1) (med : 0 ≤ m' ∧ m' ≤ m)
    (high : 0 ≤ h' ∧ h' ≤ h) (max : 0 ≤ x' ∧ x' ≤ x) :
    torqueAt 80 (cuts z' l' m' h' x') ≤ torqueAt 80 (cuts z l m h x) := by
  have fact : LowersTorque 80 .low 0 120 [] := lowers (by decide)
  apply torque_le_low (by norm_num) (by norm_num) zero _ med high max
  apply Drift.rises fact
  · norm_num
    exact low.1
  · exact low.2.1
  · norm_num
    exact low.2.2
  · simp

/-- About 40 W, MED may fall above HIGH. -/
theorem torque_40 (zero : 0 ≤ z ∧ z ≤ z') (low : 0 ≤ l ∧ l ≤ l') (med : 0 ≤ m' ∧ m' ≤ m ∧ m ≤ 1)
    (flat : h ≤ m' ∧ h' ≤ m') (high : 0 ≤ h' ∧ h' ≤ h) (max : 0 ≤ x' ∧ x' ≤ x) :
    torqueAt 160 (cuts z' l' m' h' x') ≤ torqueAt 160 (cuts z l m h x) := by
  have fact : RaisesTorque 160 .med 0 120 [.high] := raises (by decide)
  apply torque_le_med (by norm_num) (by norm_num) zero low _ high max
  apply Drift.falls fact
  · norm_num
    exact med.1
  · exact med.2.1
  · norm_num
    exact med.2.2
  · simpa using flat

/-- About 41.5 W, MED may rise above one half. -/
theorem torque_83_half (zero : 0 ≤ z ∧ z ≤ z') (low : 0 ≤ l ∧ l ≤ l')
    (med : 1 / 2 ≤ m ∧ m ≤ m' ∧ m' ≤ 1) (high : 0 ≤ h' ∧ h' ≤ h) (max : 0 ≤ x' ∧ x' ≤ x) :
    torqueAt 166 (cuts z' l' m' h' x') ≤ torqueAt 166 (cuts z l m h x) := by
  have fact : LowersTorque 166 .med 60 120 [] := lowers (by decide)
  apply torque_le_med (by norm_num) (by norm_num) zero low _ high max
  apply Drift.rises fact
  · norm_num
    exact med.1
  · exact med.2.1
  · norm_num
    exact med.2.2
  · simp

/-- About 41.5 W, MED may fall above HIGH up to three eighths. -/
theorem torque_83_half_low (zero : 0 ≤ z ∧ z ≤ z') (low : 0 ≤ l ∧ l ≤ l')
    (med : 0 ≤ m' ∧ m' ≤ m ∧ m ≤ 3 / 8) (flat : h ≤ m' ∧ h' ≤ m') (high : 0 ≤ h' ∧ h' ≤ h)
    (max : 0 ≤ x' ∧ x' ≤ x) :
    torqueAt 166 (cuts z' l' m' h' x') ≤ torqueAt 166 (cuts z l m h x) := by
  have fact : RaisesTorque 166 .med 0 45 [.high] := raises (by decide)
  apply torque_le_med (by norm_num) (by norm_num) zero low _ high max
  apply Drift.falls fact
  · norm_num
    exact med.1
  · exact med.2.1
  · norm_num
    exact med.2.2
  · simpa using flat

/-- About 41.75 W, MED may fall above HIGH between 11/30 and three eighths. -/
theorem torque_167_quarter (zero : 0 ≤ z ∧ z ≤ z') (low : 0 ≤ l ∧ l ≤ l')
    (med : 11 / 30 ≤ m' ∧ m' ≤ m ∧ m ≤ 3 / 8) (flat : h ≤ m' ∧ h' ≤ m') (high : 0 ≤ h' ∧ h' ≤ h)
    (max : 0 ≤ x' ∧ x' ≤ x) :
    torqueAt 167 (cuts z' l' m' h' x') ≤ torqueAt 167 (cuts z l m h x) := by
  have fact : RaisesTorque 167 .med 44 45 [.high] := raises (by decide)
  apply torque_le_med (by norm_num) (by norm_num) zero low _ high max
  apply Drift.falls fact
  · norm_num
    exact med.1
  · exact med.2.1
  · norm_num
    exact med.2.2
  · simpa using flat

/-- About 42 W, MED may rise above two thirds. -/
theorem torque_42 (zero : 0 ≤ z ∧ z ≤ z') (low : 0 ≤ l ∧ l ≤ l')
    (med : 2 / 3 ≤ m ∧ m ≤ m' ∧ m' ≤ 1) (high : 0 ≤ h' ∧ h' ≤ h) (max : 0 ≤ x' ∧ x' ≤ x) :
    torqueAt 168 (cuts z' l' m' h' x') ≤ torqueAt 168 (cuts z l m h x) := by
  have fact : LowersTorque 168 .med 80 120 [] := lowers (by decide)
  apply torque_le_med (by norm_num) (by norm_num) zero low _ high max
  apply Drift.rises fact
  · norm_num
    exact med.1
  · exact med.2.1
  · norm_num
    exact med.2.2
  · simp

/-- About 43 W, MED may rise above LOW. -/
theorem torque_43 (zero : 0 ≤ z ∧ z ≤ z') (low : 0 ≤ l ∧ l ≤ l') (med : 0 ≤ m ∧ m ≤ m' ∧ m' ≤ 1)
    (flat : l ≤ m ∧ l' ≤ m) (high : 0 ≤ h' ∧ h' ≤ h) (max : 0 ≤ x' ∧ x' ≤ x) :
    torqueAt 172 (cuts z' l' m' h' x') ≤ torqueAt 172 (cuts z l m h x) := by
  have fact : LowersTorque 172 .med 0 120 [.low] := lowers (by decide)
  apply torque_le_med (by norm_num) (by norm_num) zero low _ high max
  apply Drift.rises fact
  · norm_num
    exact med.1
  · exact med.2.1
  · norm_num
    exact med.2.2
  · simpa using flat

/-- About 50 W, MED may rise. -/
theorem torque_50 (zero : 0 ≤ z ∧ z ≤ z') (low : 0 ≤ l ∧ l ≤ l') (med : 0 ≤ m ∧ m ≤ m' ∧ m' ≤ 1)
    (high : 0 ≤ h' ∧ h' ≤ h) (max : 0 ≤ x' ∧ x' ≤ x) :
    torqueAt 200 (cuts z' l' m' h' x') ≤ torqueAt 200 (cuts z l m h x) := by
  have fact : LowersTorque 200 .med 0 120 [] := lowers (by decide)
  apply torque_le_med (by norm_num) (by norm_num) zero low _ high max
  apply Drift.rises fact
  · norm_num
    exact med.1
  · exact med.2.1
  · norm_num
    exact med.2.2
  · simp

/-- About 63 W, HIGH may fall. -/
theorem torque_63 (zero : 0 ≤ z ∧ z ≤ z') (low : 0 ≤ l ∧ l ≤ l') (med : 0 ≤ m ∧ m ≤ m')
    (high : 0 ≤ h' ∧ h' ≤ h ∧ h ≤ 1) (max : 0 ≤ x' ∧ x' ≤ x) :
    torqueAt 252 (cuts z' l' m' h' x') ≤ torqueAt 252 (cuts z l m h x) := by
  have fact : RaisesTorque 252 .high 0 120 [] := raises (by decide)
  apply torque_le_high (by norm_num) (by norm_num) zero low med _ max
  apply Drift.falls fact
  · norm_num
    exact high.1
  · exact high.2.1
  · norm_num
    exact high.2.2
  · simp

/-- About 70 W, HIGH may rise above MED. -/
theorem torque_70_rising (zero : 0 ≤ z ∧ z ≤ z') (low : 0 ≤ l ∧ l ≤ l') (med : 0 ≤ m ∧ m ≤ m')
    (high : 0 ≤ h ∧ h ≤ h' ∧ h' ≤ 1) (flat : m ≤ h ∧ m' ≤ h) (max : 0 ≤ x' ∧ x' ≤ x) :
    torqueAt 280 (cuts z' l' m' h' x') ≤ torqueAt 280 (cuts z l m h x) := by
  have fact : LowersTorque 280 .high 0 120 [.med] := lowers (by decide)
  apply torque_le_high (by norm_num) (by norm_num) zero low med _ max
  apply Drift.rises fact
  · norm_num
    exact high.1
  · exact high.2.1
  · norm_num
    exact high.2.2
  · simpa using flat

/-- About 70 W, HIGH may fall above MAX. -/
theorem torque_70_falling (zero : 0 ≤ z ∧ z ≤ z') (low : 0 ≤ l ∧ l ≤ l') (med : 0 ≤ m ∧ m ≤ m')
    (high : 0 ≤ h' ∧ h' ≤ h ∧ h ≤ 1) (flat : x ≤ h' ∧ x' ≤ h') (max : 0 ≤ x' ∧ x' ≤ x) :
    torqueAt 280 (cuts z' l' m' h' x') ≤ torqueAt 280 (cuts z l m h x) := by
  have fact : RaisesTorque 280 .high 0 120 [.max] := raises (by decide)
  apply torque_le_high (by norm_num) (by norm_num) zero low med _ max
  apply Drift.falls fact
  · norm_num
    exact high.1
  · exact high.2.1
  · norm_num
    exact high.2.2
  · simpa using flat

/-- About 80 W, HIGH may rise. -/
theorem torque_80 (zero : 0 ≤ z ∧ z ≤ z') (low : 0 ≤ l ∧ l ≤ l') (med : 0 ≤ m ∧ m ≤ m')
    (high : 0 ≤ h ∧ h ≤ h' ∧ h' ≤ 1) (max : 0 ≤ x' ∧ x' ≤ x) :
    torqueAt 320 (cuts z' l' m' h' x') ≤ torqueAt 320 (cuts z l m h x) := by
  have fact : LowersTorque 320 .high 0 120 [] := lowers (by decide)
  apply torque_le_high (by norm_num) (by norm_num) zero low med _ max
  apply Drift.rises fact
  · norm_num
    exact high.1
  · exact high.2.1
  · norm_num
    exact high.2.2
  · simp

/-- About 85 W, HIGH may rise and MAX may fall. -/
theorem torque_85 (zero : 0 ≤ z ∧ z ≤ z') (low : 0 ≤ l ∧ l ≤ l') (med : 0 ≤ m ∧ m ≤ m')
    (high : 0 ≤ h ∧ h ≤ h' ∧ h' ≤ 1) (max : 0 ≤ x' ∧ x' ≤ x ∧ x ≤ 1) :
    torqueAt 340 (cuts z' l' m' h' x') ≤ torqueAt 340 (cuts z l m h x) := by
  have highFact : LowersTorque 340 .high 0 120 [] := lowers (by decide)
  have maxFact : RaisesTorque 340 .max 0 120 [] := raises (by decide)
  apply torque_le_of_drift
  intro label
  cases label with
  | zero => exact .ahead (by decide) zero.1 zero.2
  | low => exact .ahead (by decide) low.1 low.2
  | med => exact .ahead (by decide) med.1 med.2
  | high => exact .rises highFact (by simpa using high.1) high.2.1 (by simpa using high.2.2) nofun
  | max => exact .falls maxFact (by simpa using max.1) max.2.1 (by simpa using max.2.2) nofun

/-- About 93 W, MAX may fall down to two fifths. -/
theorem torque_93 (zero : 0 ≤ z ∧ z ≤ z') (low : 0 ≤ l ∧ l ≤ l') (med : 0 ≤ m ∧ m ≤ m')
    (high : 0 ≤ h ∧ h ≤ h') (max : 2 / 5 ≤ x' ∧ x' ≤ x ∧ x ≤ 1) :
    torqueAt 372 (cuts z' l' m' h' x') ≤ torqueAt 372 (cuts z l m h x) := by
  have fact : RaisesTorque 372 .max 48 120 [] := raises (by decide)
  apply torque_le_of_drift
  intro label
  cases label with
  | zero => exact .ahead (by decide) zero.1 zero.2
  | low => exact .ahead (by decide) low.1 low.2
  | med => exact .ahead (by decide) med.1 med.2
  | high => exact .ahead (by decide) high.1 high.2
  | max =>
    apply Drift.falls fact
    · norm_num
      exact max.1
    · exact max.2.1
    · norm_num
      exact max.2.2
    · simp

/-- About 0 W, all sets that begin behind it may fall. -/
theorem torque_0 (zero : z' = z) (low : 0 ≤ l' ∧ l' ≤ l) (med : 0 ≤ m' ∧ m' ≤ m)
    (high : 0 ≤ h' ∧ h' ≤ h) (max : 0 ≤ x' ∧ x' ≤ x) :
    torqueAt 0 (cuts z' l' m' h' x') ≤ torqueAt 0 (cuts z l m h x) := by
  apply torque_le_of_drift
  intro label
  cases label with
  | zero => exact .rests zero
  | low => exact .behind (by decide) low.1 low.2
  | med => exact .behind (by decide) med.1 med.2
  | high => exact .behind (by decide) high.1 high.2
  | max => exact .behind (by decide) max.1 max.2

/-- About 100 W, all sets that end before it may rise. -/
theorem torque_100 (zero : 0 ≤ z ∧ z ≤ z') (low : 0 ≤ l ∧ l ≤ l') (med : 0 ≤ m ∧ m ≤ m')
    (high : 0 ≤ h ∧ h ≤ h') (max : x' = x) :
    torqueAt 400 (cuts z' l' m' h' x') ≤ torqueAt 400 (cuts z l m h x) := by
  apply torque_le_of_drift
  intro label
  cases label with
  | zero => exact .ahead (by decide) zero.1 zero.2
  | low => exact .ahead (by decide) low.1 low.2
  | med => exact .ahead (by decide) med.1 med.2
  | high => exact .ahead (by decide) high.1 high.2
  | max => exact .rests max

end Pivots

section Counts

/-- About 42 W, LOW may rise while MED falls by three quarters as much. -/
theorem torque_42_count (rises : 0 ≤ l ∧ l ≤ l' ∧ l' ≤ 1 / 9)
    (falls : 2 / 3 ≤ m' ∧ m ≤ 3 / 4) (slopes : m - m' = 3 / 4 * (l' - l)) :
    torqueAt 168 (cuts z l' m' h x) ≤ torqueAt 168 (cuts z l m h x) := by
  have upCount := @gain_counted 168 0 14 (-3038) .low (by decide)
  have downCount := @loss_counted 168 80 90 140 .med (by decide)
  have apart : OutLabel.low ≠ .med := by decide
  apply @torque_le_of_counts 168 _ _ .low .med _ _ _ _ _ _ apart _ upCount downCount
  · simp only [cuts]
    refine ⟨?_, ?_, ?_, ?_⟩ <;> push_cast <;> linarith
  · simp only [cuts]
    refine ⟨?_, ?_, ?_, ?_⟩ <;> push_cast <;> linarith
  · simp only [cuts, slopes]
    push_cast
    linarith
  · intro other notRiser notFaller
    cases other with
    | low => exact absurd rfl notRiser
    | med => exact absurd rfl notFaller
    | zero | high | max => rfl

/-- About 50 W, LOW may rise while MED falls by three quarters as much. -/
theorem torque_50_count (rises : 0 ≤ l ∧ l ≤ l' ∧ l' ≤ 2 / 3)
    (falls : 1 / 4 ≤ m' ∧ m ≤ 1) (slopes : m - m' = 3 / 4 * (l' - l)) :
    torqueAt 200 (cuts z l' m' h x) ≤ torqueAt 200 (cuts z l m h x) := by
  have upCount := @gain_counted 200 0 80 (-2312) .low (by decide)
  have downCount := @loss_counted 200 30 120 1806 .med (by decide)
  have apart : OutLabel.low ≠ .med := by decide
  apply @torque_le_of_counts 200 _ _ .low .med _ _ _ _ _ _ apart _ upCount downCount
  · simp only [cuts]
    refine ⟨?_, ?_, ?_, ?_⟩ <;> push_cast <;> linarith
  · simp only [cuts]
    refine ⟨?_, ?_, ?_, ?_⟩ <;> push_cast <;> linarith
  · simp only [cuts, slopes]
    push_cast
    linarith
  · intro other notRiser notFaller
    cases other with
    | low => exact absurd rfl notRiser
    | med => exact absurd rfl notFaller
    | zero | high | max => rfl

/-- About 63 W, HIGH may rise while MAX falls by four thirds as much. -/
theorem torque_63_count (rises : 3 / 16 ≤ h ∧ h ≤ h' ∧ h' ≤ 1)
    (falls : 0 ≤ x' ∧ x ≤ 3 / 4) (slopes : x - x' = 4 / 3 * (h' - h)) :
    torqueAt 252 (cuts z l m h' x') ≤ torqueAt 252 (cuts z l m h x) := by
  have upCount := @gain_counted 252 22 120 2162 .high (by decide)
  have downCount := @loss_counted 252 0 90 (-1638) .max (by decide)
  have apart : OutLabel.high ≠ .max := by decide
  apply @torque_le_of_counts 252 _ _ .high .max _ _ _ _ _ _ apart _ upCount downCount
  · simp only [cuts]
    refine ⟨?_, ?_, ?_, ?_⟩ <;> push_cast <;> linarith
  · simp only [cuts]
    refine ⟨?_, ?_, ?_, ?_⟩ <;> push_cast <;> linarith
  · simp only [cuts, slopes]
    push_cast
    linarith
  · intro other notRiser notFaller
    cases other with
    | high => exact absurd rfl notRiser
    | max => exact absurd rfl notFaller
    | zero | low | med => rfl

end Counts

section Signs

/-- No centroid lies below 0 W. -/
theorem torqueAt_first (heights : OutLabel → ℚ) : 0 ≤ torqueAt 0 heights := by
  apply List.sum_nonneg
  intro term listed
  obtain ⟨y, sample, rfl⟩ := List.mem_map.mp listed
  apply mul_nonneg
  · simpa using samples_nonneg y sample
  · exact clipped_nonneg _ _ _ _

/-- No centroid lies above 100 W. -/
theorem torqueAt_last (heights : OutLabel → ℚ) : torqueAt 400 heights ≤ 0 := by
  have bound := List.sum_le_card_nsmul
    (samples.map fun y => (y - (400 : ℤ) / 4) * clippedAt heights y) 0
  rw [smul_zero] at bound
  apply bound
  intro term listed
  obtain ⟨y, sample, rfl⟩ := List.mem_map.mp listed
  obtain ⟨index, -, small, rfl⟩ := (mem_samples_iff y).mp sample
  apply mul_nonpos_of_nonpos_of_nonneg
  · have cast : (index : ℚ) ≤ 200 := by exact_mod_cast small
    norm_num
    linarith
  · exact clipped_nonneg _ _ _ _

/-- Without MAX, no centroid lies above 70 W. -/
theorem torque_70_nonpos (zero : 0 ≤ z) (low : 0 ≤ l) (med : 0 ≤ m) (high : 0 ≤ h ∧ h ≤ 1) :
    torqueAt 280 (cuts z l m h 0) ≤ 0 := by
  have nothing : torqueAt 280 (cuts 0 0 0 0 0) ≤ 0 := by
    apply corner_nonpos 1 0 0 0 0 0 (by decide)
    intro label
    cases label <;> norm_num
  have alone : torqueAt 280 (cuts 0 0 0 h 0) ≤ torqueAt 280 (cuts 0 0 0 0 0) := by
    apply torque_70_rising
    all_goals grind
  have beside : torqueAt 280 (cuts z l m h 0) ≤ torqueAt 280 (cuts 0 0 0 h 0) := by
    apply torque_70_falling
    all_goals grind
  exact beside.trans (alone.trans nothing)

/-- Of HIGH and MAX, no centroid lies below 70 W. -/
theorem torque_70_nonneg (high : 0 ≤ h ∧ h ≤ 1) (max : 0 ≤ x) :
    0 ≤ torqueAt 280 (cuts 0 0 0 h x) := by
  have nothing : 0 ≤ torqueAt 280 (cuts 0 0 0 0 0) := by
    apply corner_nonneg 1 0 0 0 0 0 (by decide)
    intro label
    cases label <;> norm_num
  have alone : torqueAt 280 (cuts 0 0 0 0 0) ≤ torqueAt 280 (cuts 0 0 0 h 0) := by
    apply torque_70_falling
    all_goals grind
  have beside : torqueAt 280 (cuts 0 0 0 h 0) ≤ torqueAt 280 (cuts 0 0 0 h x) := by
    apply torque_70_rising
    all_goals grind
  exact nothing.trans (alone.trans beside)

end Signs

section Sinking

/-- The setpoint that given heights yield. -/
def setpointOf (heights : OutLabel → ℚ) : ℚ := centroid samples (clippedAt heights)

/-- Two pivots show that the setpoint does not rise: it lies between them, and about
neither does the torque rise. -/
structure Sinks (lo hi : ℤ) (before after : OutLabel → ℚ) : Prop where
  above : 0 ≤ torqueAt lo after
  below : torqueAt hi before ≤ 0
  loFalls : torqueAt lo after ≤ torqueAt lo before
  hiFalls : torqueAt hi after ≤ torqueAt hi before

/-- A positive height gives the union mass. -/
theorem mass_of_height {heights : OutLabel → ℚ} {label : OutLabel} (positive : 0 < heights label) :
    0 < (samples.map (clippedAt heights)).sum := by
  obtain ⟨y, sample, inside⟩ := outDegree_inhabited label
  apply mass_pos
  · exact fun y _ => clipped_nonneg _ _ _ y
  · refine ⟨y, sample, (aggregate_pos_iff _ _).mpr ?_⟩
    exact ⟨_, List.mem_map_of_mem (mem_outLabels label), positive, inside⟩

/-- Where the pivots show it for all changes of a variable, the setpoint does not rise. -/
theorem antitoneOn_of_sinks {heights : ℚ → OutLabel → ℚ} {first last : ℚ} {lo hi : ℤ}
    (mass : ∀ d ∈ Set.Icc first last, ∃ label, 0 < heights d label)
    (sinks : ∀ d d', first ≤ d → d ≤ d' → d' ≤ last → Sinks lo hi (heights d) (heights d')) :
    AntitoneOn (fun d => setpointOf (heights d)) (Set.Icc first last) := by
  intro d inside d' inside' ordered
  obtain ⟨_, positive⟩ := mass d inside
  obtain ⟨_, positive'⟩ := mass d' inside'
  have sinking := sinks d d' inside.1 ordered inside'.2
  exact centroid_le_of_torque (mass_of_height positive) (mass_of_height positive')
    sinking.above sinking.below sinking.loFalls sinking.hiFalls

/-- Two stretches that meet. -/
theorem antitoneOn_join {f : ℚ → ℚ} {first middle last : ℚ}
    (early : AntitoneOn f (Set.Icc first middle)) (late : AntitoneOn f (Set.Icc middle last))
    (starts : first ≤ middle) (ends : middle ≤ last) : AntitoneOn f (Set.Icc first last) := by
  rw [← Set.Icc_union_Icc_eq_Icc starts ends]
  exact early.union_right late (isGreatest_Icc starts) (isLeast_Icc ends)

end Sinking

end Microgrid.Ems
