import Mathlib.Data.Int.Cast.Lemmas
import Mathlib.Tactic.FieldSimp
import Mathlib.Tactic.LinearCombination
import Microgrid.Ems.OutputHeights

/-!
# How the setpoint follows the heights of the output sets

Which way the torque about a pivot goes when one output set is cut off higher is settled
by comparing each sample beyond the pivot with its mirror image. For a set on one side of
the pivot there is nothing to compare; for the others the comparison is over the samples
and does not depend on the heights.

At the samples all degrees are multiples of 1/120, so such comparisons, and the torque at
given heights, are computed in integers.
-/

namespace Microgrid.Ems

open FuzzyControl

section Grades

/-- The feet and the peak of an output set in steps of the samples, and the grades by which
it rises and falls from one sample to the next, 120 on each side. -/
structure Slopes where
  left : ℤ
  peak : ℤ
  right : ℤ
  rising : ℤ
  falling : ℤ
  up : rising * (peak - left) = 120
  down : falling * (right - peak) = 120

/-- `_OUT_MFS` on the samples. -/
def outSlopes : OutLabel → Slopes
  | .zero => ⟨-10, 0, 20, 12, 6, rfl, rfl⟩
  | .low => ⟨10, 30, 60, 6, 4, rfl, rfl⟩
  | .med => ⟨50, 80, 120, 4, 3, rfl, rfl⟩
  | .high => ⟨100, 140, 180, 3, 3, rfl, rfl⟩
  | .max => ⟨160, 190, 210, 4, 6, rfl, rfl⟩

/-- The grade of a set at the sample with an index. -/
def Slopes.grade (slopes : Slopes) (index : ℤ) : ℤ :=
  if index ≤ slopes.left ∨ slopes.right ≤ index then 0
  else if index ≤ slopes.peak then slopes.rising * (index - slopes.left)
  else slopes.falling * (slopes.right - index)

/-- The degree of an output set at the sample with an index, in parts of 120. -/
def grade (label : OutLabel) (index : ℤ) : ℤ := (outSlopes label).grade index

/-- A triangle with its feet and its peak on samples has these grades. -/
theorem Slopes.triangle_grade (slopes : Slopes) (index : ℤ) :
    triangle ((slopes.left : ℚ) / 2) (slopes.peak / 2) (slopes.right / 2) (index / 2)
      = (slopes.grade index : ℚ) / 120 := by
  obtain ⟨left, peak, right, rising, falling, up, down⟩ := slopes
  have halves (first second : ℤ) : (first : ℚ) / 2 ≤ second / 2 ↔ first ≤ second := by
    rw [div_le_div_iff_of_pos_right (by norm_num), Int.cast_le]
  have upward : (rising : ℚ) * (peak - left) = 120 := by exact_mod_cast up
  have downward : (falling : ℚ) * (right - peak) = 120 := by exact_mod_cast down
  simp only [triangle, Slopes.grade, halves]
  split_ifs with outside below
  · simp
  · have width : (peak : ℚ) / 2 - left / 2 ≠ 0 := by
      intro none
      rw [show (peak : ℚ) - left = 0 by linarith, mul_zero] at upward
      norm_num at upward
    rw [div_eq_div_iff width (by norm_num)]
    push_cast
    linear_combination (-((index : ℚ) - left) / 2) * upward
  · have width : (right : ℚ) / 2 - peak / 2 ≠ 0 := by
      intro none
      rw [show (right : ℚ) - peak = 0 by linarith, mul_zero] at downward
      norm_num at downward
    rw [div_eq_div_iff width (by norm_num)]
    push_cast
    linear_combination (-((right : ℚ) - index) / 2) * downward

/-- The slopes are those of the output sets. -/
theorem outMfs_slopes (label : OutLabel) : outMfs label =
    (((outSlopes label).left : ℚ) / 2, ((outSlopes label).peak : ℚ) / 2,
      ((outSlopes label).right : ℚ) / 2) := by
  cases label <;> norm_num [outMfs, outSlopes]

/-- The grades are the degrees. -/
theorem outDegree_grade (label : OutLabel) (index : ℤ) :
    outDegree label (index / 2) = grade label index / 120 := by
  rw [outDegree, outMfs_slopes, grade]
  exact (outSlopes label).triangle_grade index

/-- The samples are the multiples of 0.5 up to 100. -/
theorem mem_samples_iff (y : ℚ) :
    y ∈ samples ↔ ∃ index : ℤ, 0 ≤ index ∧ index ≤ 200 ∧ y = index / 2 := by
  have count : (maxSp / universeStep).floor.toNat + 1 = 201 := by decide +kernel
  rw [samples, count]
  simp only [List.mem_map, List.mem_range, universeStep]
  constructor
  · rintro ⟨index, small, rfl⟩
    refine ⟨index, by omega, by omega, ?_⟩
    push_cast
    ring
  · rintro ⟨index, nonneg, small, rfl⟩
    lift index to ℕ using nonneg
    refine ⟨index, by omega, ?_⟩
    push_cast
    ring

/-- No sample occurs twice. -/
theorem samples_nodup : samples.Nodup := by
  apply List.Nodup.map _ List.nodup_range
  intro first second equal
  have cast := mul_right_cancel₀ (show universeStep ≠ 0 by norm_num [universeStep]) equal
  exact_mod_cast cast

end Grades

/-- The torque of the output sets at their heights about a pivot, given in quarters. -/
def torqueAt (quarters : ℤ) (heights : OutLabel → ℚ) : ℚ :=
  torque samples (quarters / 4) (clippedAt heights)

section Comparisons

variable (quarters : ℤ) (label : OutLabel) (floor cap : ℤ) (shallow : List OutLabel)

/-- What has to hold of the mirror image of a sample, if layers between a floor and a cap
are to gain as much there: the set is as high and no other set is in the way, unless it is
known to be shallow. -/
def Mirrored (index : ℤ) : Prop :=
  (0 ≤ quarters - index ∧ quarters - index ≤ 200) ∧
    min cap (grade label index) ≤ grade label (quarters - index) ∧
    ∀ other ∈ outLabels, other ≠ label → other ∈ shallow ∨
      grade other (quarters - index) ≤ max floor (grade other index)

instance (index : ℤ) : Decidable (Mirrored quarters label floor cap shallow index) :=
  inferInstanceAs (Decidable (_ ∧ _))

/-- Raising the set lowers the torque. -/
def LowersTorque : Prop :=
  ∀ index ∈ List.range 201, quarters < 2 * (index : ℤ) → floor < grade label index →
    Mirrored quarters label floor cap shallow index

/-- Raising the set raises the torque. -/
def RaisesTorque : Prop :=
  ∀ index ∈ List.range 201, 2 * (index : ℤ) < quarters → floor < grade label index →
    Mirrored quarters label floor cap shallow index

instance : Decidable (LowersTorque quarters label floor cap shallow) :=
  inferInstanceAs (Decidable (∀ index ∈ List.range 201, _))

instance : Decidable (RaisesTorque quarters label floor cap shallow) :=
  inferInstanceAs (Decidable (∀ index ∈ List.range 201, _))

variable {quarters label floor cap shallow} {before after : OutLabel → ℚ}

/-- The layers are as high at the mirror image and no more in the way of other sets. -/
theorem mirrored_layers (above : (floor : ℚ) / 120 ≤ before label)
    (below : after label ≤ (cap : ℚ) / 120)
    (flat : ∀ other ∈ shallow, before other ≤ before label) {index : ℤ}
    (mirrored : Mirrored quarters label floor cap shallow index) :
    2 * ((quarters : ℚ) / 4) - index / 2 ∈ samples ∧
      min (after label) (outDegree label (index / 2))
        ≤ outDegree label (2 * ((quarters : ℚ) / 4) - index / 2) ∧
      ∀ other ∈ outLabels, other ≠ label → before other ≤ before label ∨
        outDegree other (2 * ((quarters : ℚ) / 4) - index / 2)
          ≤ max (before label) (outDegree other (index / 2)) := by
  obtain ⟨⟨nonneg, small⟩, high, uncovered⟩ := mirrored
  have image : 2 * ((quarters : ℚ) / 4) - index / 2 = ((quarters - index : ℤ) : ℚ) / 2 := by
    push_cast
    ring
  have parts {first second : ℤ} (ordered : first ≤ second) : (first : ℚ) / 120 ≤ second / 120 := by
    rw [div_le_div_iff_of_pos_right (by norm_num), Int.cast_le]
    exact ordered
  rw [image]
  simp only [outDegree_grade]
  refine ⟨(mem_samples_iff _).mpr ⟨quarters - index, nonneg, small, rfl⟩, ?_, ?_⟩
  · apply (min_le_min_right _ below).trans
    rcases min_le_iff.mp high with low | low
    · exact (min_le_left _ _).trans (parts low)
    · exact (min_le_right _ _).trans (parts low)
  · intro other listed apart
    rcases uncovered other listed apart with low | less
    · exact .inl (flat other low)
    · rcases le_max_iff.mp less with low | low
      · exact .inr (le_max_of_le_left ((parts low).trans above))
      · exact .inr (le_max_of_le_right (parts low))

/-- Raising the set between the floor and the cap lowers the torque. -/
theorem LowersTorque.torque_le (fact : LowersTorque quarters label floor cap shallow)
    (same : ∀ other, other ≠ label → after other = before other)
    (above : (floor : ℚ) / 120 ≤ before label) (raised : before label ≤ after label)
    (below : after label ≤ (cap : ℚ) / 120) (flat : ∀ other ∈ shallow, before other ≤ before label) :
    torqueAt quarters after ≤ torqueAt quarters before := by
  apply torque_fall samples_nodup (mem_outLabels label) same raised
  intro y sample beyond reaches
  obtain ⟨index, nonneg, small, rfl⟩ := (mem_samples_iff y).mp sample
  lift index to ℕ using nonneg
  have degree := above.trans_lt reaches
  rw [outDegree_grade, div_lt_div_iff_of_pos_right (by norm_num), Int.cast_lt] at degree
  have side : (quarters : ℚ) < 2 * (index : ℤ) := by linarith
  exact mirrored_layers above below flat
    (fact index (List.mem_range.mpr (by omega)) (by exact_mod_cast side) degree)

/-- Raising the set between the floor and the cap raises the torque. -/
theorem RaisesTorque.torque_le (fact : RaisesTorque quarters label floor cap shallow)
    (same : ∀ other, other ≠ label → after other = before other)
    (above : (floor : ℚ) / 120 ≤ before label) (raised : before label ≤ after label)
    (below : after label ≤ (cap : ℚ) / 120) (flat : ∀ other ∈ shallow, before other ≤ before label) :
    torqueAt quarters before ≤ torqueAt quarters after := by
  apply torque_rise samples_nodup (mem_outLabels label) same raised
  intro y sample ahead reaches
  obtain ⟨index, nonneg, small, rfl⟩ := (mem_samples_iff y).mp sample
  lift index to ℕ using nonneg
  have degree := above.trans_lt reaches
  rw [outDegree_grade, div_lt_div_iff_of_pos_right (by norm_num), Int.cast_lt] at degree
  have side : 2 * ((index : ℤ) : ℚ) < quarters := by linarith
  exact mirrored_layers above below flat
    (fact index (List.mem_range.mpr (by omega)) (by exact_mod_cast side) degree)

/-- What happens to one label in a change that does not raise the torque. -/
inductive Drift (quarters : ℤ) (before after : OutLabel → ℚ) (label : OutLabel) : Prop where
  | rests (same : after label = before label)
  | rises {floor cap : ℤ} {shallow : List OutLabel}
      (fact : LowersTorque quarters label floor cap shallow)
      (above : (floor : ℚ) / 120 ≤ before label) (raised : before label ≤ after label)
      (below : after label ≤ (cap : ℚ) / 120)
      (flat : ∀ other ∈ shallow, before other ≤ before label ∧ after other ≤ before label)
  | falls {floor cap : ℤ} {shallow : List OutLabel}
      (fact : RaisesTorque quarters label floor cap shallow)
      (above : (floor : ℚ) / 120 ≤ after label) (lowered : after label ≤ before label)
      (below : before label ≤ (cap : ℚ) / 120)
      (flat : ∀ other ∈ shallow, before other ≤ after label ∧ after other ≤ after label)

/-- If no label raises the torque on its own, all together do not. -/
theorem torque_le_of_drift (drifts : ∀ label, Drift quarters before after label) :
    torqueAt quarters after ≤ torqueAt quarters before := by
  -- the labels change one after the other; `mixed` is the state in between
  set mixed : List OutLabel → OutLabel → ℚ :=
    fun done label => if label ∈ done then after label else before label with named
  have between (done : List OutLabel) {other : OutLabel} {bound : ℚ} (old : before other ≤ bound)
      (new : after other ≤ bound) : mixed done other ≤ bound := by
    by_cases changed : other ∈ done
    · simpa [named, changed] using new
    · simpa [named, changed] using old
  have steps : ∀ done, torqueAt quarters (mixed done) ≤ torqueAt quarters before := by
    intro done
    induction done with
    | nil => simp [named]
    | cons label done inductionHypothesis =>
      apply le_trans _ inductionHypothesis
      have same : ∀ other, other ≠ label → mixed (label :: done) other = mixed done other := by
        intro other apart
        simp [named, apart]
      have changed : mixed (label :: done) label = after label := by simp [named]
      by_cases already : label ∈ done
      · have unchanged : mixed (label :: done) = mixed done := by
          funext other
          by_cases own : other = label
          · simp [named, own, already]
          · exact same other own
        rw [unchanged]
      · have pending : mixed done label = before label := by simp [named, already]
        rcases drifts label with rests | ⟨fact, above, raised, below, flat⟩ |
          ⟨fact, above, lowered, below, flat⟩
        · have unchanged : mixed (label :: done) = mixed done := by
            funext other
            by_cases own : other = label
            · rw [own, changed, pending, rests]
            · exact same other own
          rw [unchanged]
        · apply fact.torque_le same
          · rwa [pending]
          · rwa [pending, changed]
          · rwa [changed]
          · intro other listed
            rw [pending]
            exact between done (flat other listed).1 (flat other listed).2
        · apply fact.torque_le fun other apart => (same other apart).symm
          · rwa [changed]
          · rwa [pending, changed]
          · rwa [pending]
          · intro other listed
            rw [changed]
            exact between _ (flat other listed).1 (flat other listed).2
  have complete : mixed outLabels = after := by
    funext label
    simp [named, mem_outLabels]
  rw [← complete]
  exact steps outLabels

/-- A set that ends before the pivot may rise. -/
theorem Drift.ahead (foot : 2 * (outSlopes label).right ≤ quarters) (nonneg : 0 ≤ before label)
    (raised : before label ≤ after label) : Drift quarters before after label := by
  have fact : LowersTorque quarters label 0 ⌈120 * after label⌉ [] := by
    intro index _ beyond reaches
    have none : grade label index = 0 := if_pos (.inr (by omega))
    omega
  apply Drift.rises fact _ raised _ nofun
  · simpa using nonneg
  · have bound := Int.le_ceil (120 * after label)
    linarith

/-- A set that begins beyond the pivot may fall. -/
theorem Drift.behind (foot : quarters ≤ 2 * (outSlopes label).left) (nonneg : 0 ≤ after label)
    (lowered : after label ≤ before label) : Drift quarters before after label := by
  have fact : RaisesTorque quarters label 0 ⌈120 * before label⌉ [] := by
    intro index _ ahead reaches
    have none : grade label index = 0 := if_pos (.inl (by omega))
    omega
  apply Drift.falls fact _ lowered _ nofun
  · simpa using nonneg
  · have bound := Int.le_ceil (120 * before label)
    linarith

/-- What raising a set adds to the torque at most, counted over the samples. -/
theorem torqueAt_gain {floor cap count : ℚ}
    (counted : (samples.map fun y =>
      mostGain outLabels outDegree label floor cap (y - quarters / 4) y).sum ≤ count)
    (same : ∀ other, other ≠ label → after other = before other) (nonneg : 0 ≤ before label)
    (above : floor ≤ before label) (raised : before label ≤ after label)
    (below : after label ≤ cap) :
    torqueAt quarters after ≤ torqueAt quarters before + (after label - before label) * count := by
  have gain : torqueAt quarters after - torqueAt quarters before ≤ _ :=
    torque_gain samples _ (mem_outLabels label) same raised nonneg above below
  have most := mul_le_mul_of_nonneg_left counted (sub_nonneg.mpr raised)
  linarith

/-- What lowering a set adds to the torque at most, counted over the samples. -/
theorem torqueAt_loss {floor cap count : ℚ}
    (counted : (samples.map fun y =>
      mostGain outLabels outDegree label floor cap (quarters / 4 - y) y).sum ≤ count)
    (same : ∀ other, other ≠ label → after other = before other) (nonneg : 0 ≤ after label)
    (above : floor ≤ after label) (lowered : after label ≤ before label)
    (below : before label ≤ cap) :
    torqueAt quarters after ≤ torqueAt quarters before + (before label - after label) * count := by
  have loss : torqueAt quarters after - torqueAt quarters before ≤ _ :=
    torque_loss samples _ (mem_outLabels label) (fun other apart => (same other apart).symm)
      lowered nonneg above below
  have most := mul_le_mul_of_nonneg_left counted (sub_nonneg.mpr lowered)
  linarith

/-- One set rises while another one falls, and the counts outweigh each other. -/
theorem torque_le_of_counts {riser faller : OutLabel} {low high low' high' up down : ℚ}
    (apart : riser ≠ faller)
    (same : ∀ other, other ≠ riser → other ≠ faller → after other = before other)
    (upCount : (samples.map fun y =>
      mostGain outLabels outDegree riser low high (y - quarters / 4) y).sum ≤ up)
    (downCount : (samples.map fun y =>
      mostGain outLabels outDegree faller low' high' (quarters / 4 - y) y).sum ≤ down)
    (rises : 0 ≤ before riser ∧ low ≤ before riser ∧ before riser ≤ after riser ∧
      after riser ≤ high)
    (falls : 0 ≤ after faller ∧ low' ≤ after faller ∧ after faller ≤ before faller ∧
      before faller ≤ high')
    (outweighed : (after riser - before riser) * up + (before faller - after faller) * down ≤ 0) :
    torqueAt quarters after ≤ torqueAt quarters before := by
  -- the set that falls does so first
  set middle : OutLabel → ℚ := Function.update before faller (after faller) with named
  have changed : middle faller = after faller := Function.update_self _ _ _
  have kept {other : OutLabel} (different : other ≠ faller) : middle other = before other :=
    Function.update_of_ne different _ _
  have lowered : torqueAt quarters middle ≤ torqueAt quarters before
      + (before faller - middle faller) * down := by
    apply torqueAt_loss downCount fun other different => kept different
    · exact falls.1.trans_eq changed.symm
    · exact falls.2.1.trans_eq changed.symm
    · exact changed.trans_le falls.2.2.1
    · exact falls.2.2.2
  have raised : torqueAt quarters after ≤ torqueAt quarters middle
      + (after riser - middle riser) * up := by
    apply torqueAt_gain upCount
    · intro other different
      by_cases fallen : other = faller
      · rw [fallen, changed]
      · rw [kept fallen, same other different fallen]
    · exact rises.1.trans_eq (kept apart).symm
    · exact rises.2.1.trans_eq (kept apart).symm
    · exact (kept apart).trans_le rises.2.2.1
    · exact rises.2.2.2
  rw [changed] at lowered
  rw [kept apart] at raised
  linarith

end Comparisons

section Levels

/-- The torque, in integers: heights and grades in parts of 120 times a scale. -/
def gradeTorque (quarters scale : ℤ) (levels : OutLabel → ℤ) : ℤ :=
  ((List.range 201).map fun (index : ℕ) => (2 * (index : ℤ) - quarters)
    * (outLabels.map fun label => min (levels label) (scale * grade label index)).foldr max 0).sum

/-- The union at a sample, in integers. -/
theorem clippedAt_levels {scale : ℤ} (positive : 0 < scale) (levels : OutLabel → ℤ) (index : ℤ) :
    clippedAt (fun label => (levels label : ℚ) / (120 * scale)) (index / 2)
      = ((outLabels.map fun label => min (levels label) (scale * grade label index)).foldr max 0 : ℤ)
        / (120 * scale) := by
  have scaled : (0 : ℚ) < scale := by exact_mod_cast positive
  have degree (label : OutLabel) : outDegree label (index / 2)
      = ((scale * grade label index : ℤ) : ℚ) / (120 * scale) := by
    rw [outDegree_grade, div_eq_div_iff (by norm_num) (by positivity)]
    push_cast
    ring
  rw [clippedAt, clipped, aggregate]
  induction outLabels with
  | nil => simp
  | cons label rest inductionHypothesis =>
    simp only [List.map_cons, List.foldr_cons] at inductionHypothesis ⊢
    rw [inductionHypothesis, degree, min_div_div_right (by positivity),
      max_div_div_right (by positivity)]
    push_cast
    rfl

/-- The samples in their order. -/
theorem samples_eq : samples = (List.range 201).map fun (index : ℕ) => (index : ℚ) / 2 := by
  have count : (maxSp / universeStep).floor.toNat + 1 = 201 := by decide +kernel
  rw [samples, count]
  apply List.map_congr_left
  intro index _
  rw [universeStep]
  ring

/-- The integers give the torque. -/
theorem torqueAt_levels {scale : ℤ} (positive : 0 < scale) (quarters : ℤ) (levels : OutLabel → ℤ) :
    torqueAt quarters (fun label => levels label / (120 * scale))
      = gradeTorque quarters scale levels / (480 * scale) := by
  have scaled : (0 : ℚ) < scale := by exact_mod_cast positive
  rw [torqueAt, torque, samples_eq, gradeTorque, List.map_map]
  induction List.range 201 with
  | nil => simp
  | cons index rest inductionHypothesis =>
    have degree := clippedAt_levels positive levels index
    rw [Int.cast_natCast] at degree
    simp only [List.map_cons, List.sum_cons, Function.comp_apply] at inductionHypothesis ⊢
    rw [inductionHypothesis, degree]
    push_cast
    field_simp
    ring

/-- The integers give the sign of the torque. -/
theorem torqueAt_nonneg {quarters : ℤ} {heights : OutLabel → ℚ} (scale : ℤ)
    (levels : OutLabel → ℤ) (positive : 0 < scale)
    (exact : ∀ label, heights label = levels label / (120 * scale))
    (sign : 0 ≤ gradeTorque quarters scale levels) : 0 ≤ torqueAt quarters heights := by
  have scaled : (0 : ℚ) < scale := by exact_mod_cast positive
  rw [funext exact, torqueAt_levels positive]
  apply div_nonneg
  · exact_mod_cast sign
  · positivity

/-- The integers give the sign of the torque. -/
theorem torqueAt_nonpos {quarters : ℤ} {heights : OutLabel → ℚ} (scale : ℤ)
    (levels : OutLabel → ℤ) (positive : 0 < scale)
    (exact : ∀ label, heights label = levels label / (120 * scale))
    (sign : gradeTorque quarters scale levels ≤ 0) : torqueAt quarters heights ≤ 0 := by
  have scaled : (0 : ℚ) < scale := by exact_mod_cast positive
  rw [funext exact, torqueAt_levels positive]
  apply div_nonpos_of_nonpos_of_nonneg
  · exact_mod_cast sign
  · positivity

/-- The integers give the sign of the torque. -/
theorem torqueAt_pos {quarters : ℤ} {heights : OutLabel → ℚ} (scale : ℤ)
    (levels : OutLabel → ℤ) (positive : 0 < scale)
    (exact : ∀ label, heights label = levels label / (120 * scale))
    (sign : 0 < gradeTorque quarters scale levels) : 0 < torqueAt quarters heights := by
  have scaled : (0 : ℚ) < scale := by exact_mod_cast positive
  rw [funext exact, torqueAt_levels positive]
  apply div_pos
  · exact_mod_cast sign
  · positivity

/-- What raising a set by one adds at a sample at most, in integers. -/
def gradeGain (label : OutLabel) (floor cap weight index : ℤ) : ℤ :=
  if 0 ≤ weight then if floor < grade label index then weight else 0
  else if cap ≤ grade label index ∧ ∀ other ∈ outLabels, other = label ∨ grade other index ≤ 0
    then weight
  else 0

/-- The integers give this bound. -/
theorem mostGain_grade (label : OutLabel) (floor cap weight index : ℤ) :
    mostGain outLabels outDegree label ((floor : ℚ) / 120) (cap / 120) (weight / 4) (index / 2)
      = (gradeGain label floor cap weight index : ℚ) / 4 := by
  have parts (first second : ℤ) : (first : ℚ) / 120 ≤ second / 120 ↔ first ≤ second := by
    rw [div_le_div_iff_of_pos_right (by norm_num), Int.cast_le]
  have strictly (first second : ℤ) : (first : ℚ) / 120 < second / 120 ↔ first < second := by
    rw [div_lt_div_iff_of_pos_right (by norm_num), Int.cast_lt]
  have none (other : ℤ) : (other : ℚ) / 120 ≤ 0 ↔ other ≤ 0 := by
    rw [div_le_iff₀ (by norm_num), zero_mul, Int.cast_nonpos]
  have sign : (0 : ℚ) ≤ weight / 4 ↔ 0 ≤ weight := by
    rw [le_div_iff₀ (by norm_num), zero_mul, Int.cast_nonneg_iff]
  simp only [mostGain, gradeGain, outDegree_grade, parts, strictly, none, sign]
  split_ifs <;> simp

/-- And its sum over the samples. -/
theorem sum_mostGain (label : OutLabel) (floor cap : ℤ) {weight : ℚ → ℚ} {weights : ℤ → ℤ}
    (exact : ∀ index : ℤ, weight (index / 2) = weights index / 4) :
    (samples.map fun y =>
        mostGain outLabels outDegree label ((floor : ℚ) / 120) (cap / 120) (weight y) y).sum
      = (((List.range 201).map fun (index : ℕ) =>
          gradeGain label floor cap (weights index) index).sum : ℤ) / 4 := by
  rw [samples_eq, List.map_map]
  induction List.range 201 with
  | nil => simp
  | cons index rest inductionHypothesis =>
    have gain := mostGain_grade label floor cap (weights index) index
    rw [← exact, Int.cast_natCast] at gain
    simp only [List.map_cons, List.sum_cons, Function.comp_apply] at inductionHypothesis ⊢
    rw [inductionHypothesis, gain]
    push_cast
    ring

/-- Heights of the five output sets. -/
@[simp] def cuts {α : Type} (zero low med high max : α) : OutLabel → α
  | .zero => zero
  | .low => low
  | .med => med
  | .high => high
  | .max => max

end Levels

end Microgrid.Ems
