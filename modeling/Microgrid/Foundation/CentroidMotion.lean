import Mathlib.Algebra.BigOperators.Group.Finset.Basic
import Mathlib.Algebra.Order.BigOperators.Group.Finset
import Mathlib.Tactic.Linarith
import Mathlib.Tactic.NormNum
import Microgrid.Foundation.FuzzyControl

/-!
# How a centroid moves

The torque of a set about a pivot tells on which side of the pivot its centroid lies. A
change that raises the torque neither about a pivot below the centroid nor about one above
it does not raise the centroid (`centroid_le_of_torque`), so pivots can be chosen at which
the torque is easy to follow.

Raising the height at which one output set of a union is cut off adds layers to the union.
If every sample that gains beyond the pivot has a mirror image before it that gains as
much, the torque falls (`torque_fall`, `torque_rise`); where the layers lie on both sides
of several sets, their torque is bounded by counting samples (`torque_gain`,
`torque_loss`).
-/

namespace Microgrid.FuzzyControl

variable {K : Type} [Field K]

/-- The torque of a set about a pivot. -/
def torque (samples : List K) (pivot : K) (membership : K → K) : K :=
  (samples.map fun y => (y - pivot) * membership y).sum

section Torques

/-- The torque is the first moment less the mass at the pivot. -/
theorem torque_eq (samples : List K) (pivot : K) (membership : K → K) :
    torque samples pivot membership
      = (samples.map fun y => y * membership y).sum - pivot * (samples.map membership).sum := by
  induction samples with
  | nil => simp [torque]
  | cons y rest inductionHypothesis =>
    simp only [torque, List.map_cons, List.sum_cons] at inductionHypothesis ⊢
    rw [inductionHypothesis]
    ring

/-- What a change adds to the torque, sample by sample. -/
theorem torque_sub (samples : List K) (pivot : K) (before after : K → K) :
    torque samples pivot after - torque samples pivot before
      = (samples.map fun y => (y - pivot) * (after y - before y)).sum := by
  induction samples with
  | nil => simp [torque]
  | cons y rest inductionHypothesis =>
    simp only [torque, List.map_cons, List.sum_cons] at inductionHypothesis ⊢
    rw [← inductionHypothesis]
    ring

variable [LinearOrder K] [IsStrictOrderedRing K] {samples : List K} {before after : K → K}

/-- A change that raises the torque neither about a pivot below the centroid nor about one
above it does not raise the centroid. -/
theorem centroid_le_of_torque (massBefore : 0 < (samples.map before).sum)
    (massAfter : 0 < (samples.map after).sum) {lo hi : K}
    (loAfter : 0 ≤ torque samples lo after) (hiBefore : torque samples hi before ≤ 0)
    (loFalls : torque samples lo after ≤ torque samples lo before)
    (hiFalls : torque samples hi after ≤ torque samples hi before) :
    centroid samples after ≤ centroid samples before := by
  rw [torque_eq] at loAfter hiBefore
  rw [torque_eq, torque_eq] at loFalls hiFalls
  unfold centroid
  set momentBefore := (samples.map fun y => y * before y).sum
  set momentAfter := (samples.map fun y => y * after y).sum
  set heavy := (samples.map before).sum
  set light := (samples.map after).sum
  set centre := momentBefore / heavy with named
  have balance : centre * heavy = momentBefore := div_mul_cancel₀ _ massBefore.ne'
  have above : lo ≤ centre := by
    rw [named, le_div_iff₀ massBefore]
    linarith
  have below : centre ≤ hi := by
    rw [named, div_le_iff₀ massBefore]
    linarith
  rw [div_le_iff₀ massAfter]
  -- the change of the torque is linear in the pivot, so it is no rise about the centroid
  rcases le_total light heavy with lighter | heavier
  · have gap := mul_nonneg (sub_nonneg.mpr below) (sub_nonneg.mpr lighter)
    linarith
  · have gap := mul_nonneg (sub_nonneg.mpr above) (sub_nonneg.mpr heavier)
    linarith

/-- Adding mass beyond the centroid without lowering the torque about a pivot, or removing
it before the centroid, raises the centroid. -/
theorem centroid_lt_of_torque (massBefore : 0 < (samples.map before).sum)
    (massAfter : 0 < (samples.map after).sum) {pivot : K}
    (raised : torque samples pivot before ≤ torque samples pivot after)
    (apart : torque samples pivot before
      * ((samples.map after).sum - (samples.map before).sum) < 0) :
    centroid samples before < centroid samples after := by
  rw [torque_eq] at apart
  rw [torque_eq, torque_eq] at raised
  unfold centroid
  set momentBefore := (samples.map fun y => y * before y).sum
  set momentAfter := (samples.map fun y => y * after y).sum
  set heavy := (samples.map before).sum
  set light := (samples.map after).sum
  rw [div_lt_div_iff₀ massBefore massAfter]
  have scaled := mul_le_mul_of_nonneg_right raised massBefore.le
  linarith

end Torques

section Mirrors

variable [LinearOrder K] [IsStrictOrderedRing K]

/-- A sum is not positive if every positive term has a mirror image of the opposite weight
that gains as much. -/
theorem sum_nonpos_of_mirror {samples : List K} (distinct : samples.Nodup)
    (weight gain mirror : K → K) (nonneg : ∀ y ∈ samples, 0 ≤ gain y)
    (back : ∀ y, mirror (mirror y) = y) (opposite : ∀ y, weight (mirror y) = -weight y)
    (outweighed : ∀ y ∈ samples, 0 < weight y → 0 < gain y →
      mirror y ∈ samples ∧ gain y ≤ gain (mirror y)) :
    (samples.map fun y => weight y * gain y).sum ≤ 0 := by
  classical
  rw [← List.sum_toFinset _ distinct]
  set heavy := samples.toFinset.filter fun y => 0 < weight y ∧ 0 < gain y with named
  set others := samples.toFinset.filter fun y => ¬(0 < weight y ∧ 0 < gain y) with rest
  have split := Finset.sum_filter_add_sum_filter_not samples.toFinset
    (fun y => 0 < weight y ∧ 0 < gain y) (fun y => weight y * gain y)
  have injective : Set.InjOn mirror heavy := by
    intro y _ z _ equal
    rw [← back y, equal, back]
  -- the mirror images are among the other samples, whose terms are not positive
  have included : heavy.image mirror ⊆ others := by
    intro z imaged
    obtain ⟨y, member, rfl⟩ := Finset.mem_image.mp imaged
    obtain ⟨listed, positive, gains⟩ := Finset.mem_filter.mp member
    have image := (outweighed y (List.mem_toFinset.mp listed) positive gains).1
    rw [rest, Finset.mem_filter]
    refine ⟨List.mem_toFinset.mpr image, fun both => ?_⟩
    rw [opposite] at both
    linarith [both.1]
  have harmless : ∀ y ∈ others, weight y * gain y ≤ 0 := by
    intro y member
    obtain ⟨listed, notBoth⟩ := Finset.mem_filter.mp member
    have gains := nonneg y (List.mem_toFinset.mp listed)
    rcases gains.eq_or_lt with nothing | something
    · rw [← nothing, mul_zero]
    · have light : weight y ≤ 0 := not_lt.mp fun positive => notBoth ⟨positive, something⟩
      exact mul_nonpos_of_nonpos_of_nonneg light gains
  have images : ∑ y ∈ others, weight y * gain y ≤ ∑ y ∈ heavy, -(weight y * gain y) := by
    calc ∑ y ∈ others, weight y * gain y
        ≤ ∑ y ∈ heavy.image mirror, weight y * gain y :=
          Finset.sum_le_sum_of_subset_of_nonpos' included fun y member _ => harmless y member
      _ = ∑ y ∈ heavy, weight (mirror y) * gain (mirror y) := Finset.sum_image injective
      _ ≤ ∑ y ∈ heavy, -(weight y * gain y) := by
          apply Finset.sum_le_sum
          intro y member
          obtain ⟨listed, positive, gains⟩ := Finset.mem_filter.mp member
          have more := (outweighed y (List.mem_toFinset.mp listed) positive gains).2
          rw [opposite, neg_mul, neg_le_neg_iff]
          exact mul_le_mul_of_nonneg_left more positive.le
  rw [← split]
  rw [Finset.sum_neg_distrib] at images
  linarith

end Mirrors

section Layers

variable [LinearOrder K] {Label : Type} (labels : List Label) (output : Label → K → K)

/-- The output sets, each cut off at the height of its label, united. -/
def clipped (heights : Label → K) : K → K :=
  aggregate (labels.map fun label => (heights label, output label))

/-- What bounds the union bounds every height or the set below it. -/
theorem clipped_le_iff (heights : Label → K) (y bound : K) :
    clipped labels output heights y ≤ bound ↔
      0 ≤ bound ∧ ∀ label ∈ labels, heights label ≤ bound ∨ output label y ≤ bound := by
  rw [clipped, aggregate_le_iff, List.forall_mem_map]

/-- The union is nowhere negative. -/
theorem clipped_nonneg (heights : Label → K) (y : K) : 0 ≤ clipped labels output heights y :=
  aggregate_nonneg _ y

variable {label : Label} {before after : Label → K}

/-- The union reaches every set up to its height. -/
theorem le_clipped (listed : label ∈ labels) (heights : Label → K) (y : K) :
    heights label ≤ clipped labels output heights y ∨
      output label y ≤ clipped labels output heights y :=
  ((clipped_le_iff labels output heights y _).mp le_rfl).2 label listed

variable {labels output}

/-- Raising one height adds the layers of its set that stand out of the union. -/
theorem clipped_raise (listed : label ∈ labels)
    (same : ∀ other, other ≠ label → after other = before other)
    (raised : before label ≤ after label) (y : K) :
    clipped labels output after y
      = max (clipped labels output before y) (min (after label) (output label y)) := by
  apply eq_of_forall_ge_iff
  intro bound
  rw [max_le_iff, min_le_iff, clipped_le_iff, clipped_le_iff]
  constructor
  · rintro ⟨nonneg, bounded⟩
    refine ⟨⟨nonneg, fun other member => ?_⟩, bounded label listed⟩
    by_cases own : other = label
    · rw [own]
      exact (bounded label listed).imp_left raised.trans
    · rw [← same other own]
      exact bounded other member
  · rintro ⟨⟨nonneg, bounded⟩, top⟩
    refine ⟨nonneg, fun other member => ?_⟩
    by_cases own : other = label
    · rw [own]
      exact top
    · rw [same other own]
      exact bounded other member

variable [IsStrictOrderedRing K]

/-- Raising a height lowers the union nowhere. -/
theorem gain_nonneg (listed : label ∈ labels)
    (same : ∀ other, other ≠ label → after other = before other)
    (raised : before label ≤ after label) (y : K) :
    0 ≤ clipped labels output after y - clipped labels output before y := by
  rw [clipped_raise listed same raised, sub_nonneg]
  exact le_max_left _ _

/-- A sample gains only where the set reaches beyond the old height. -/
theorem gain_reaches (listed : label ∈ labels)
    (same : ∀ other, other ≠ label → after other = before other)
    (raised : before label ≤ after label) {y : K}
    (gains : 0 < clipped labels output after y - clipped labels output before y) :
    before label < output label y := by
  rw [clipped_raise listed same raised, sub_pos, lt_max_iff] at gains
  have stands := gains.resolve_left (lt_irrefl _)
  obtain ⟨_, reaches⟩ := lt_min_iff.mp stands
  rcases le_clipped labels output listed before y with covered | covered
  · exact covered.trans_lt reaches
  · exact absurd reaches covered.not_gt

/-- A sample gains no more than another at which the set is as high and the others cover no
more of its layers. -/
theorem gain_le_gain (listed : label ∈ labels)
    (same : ∀ other, other ≠ label → after other = before other)
    (raised : before label ≤ after label) {y z : K} (reaches : before label < output label y)
    (high : min (after label) (output label y) ≤ output label z)
    (uncovered : ∀ other ∈ labels, other ≠ label → before other ≤ before label ∨
      output other z ≤ max (before label) (output other y)) :
    clipped labels output after y - clipped labels output before y
      ≤ clipped labels output after z - clipped labels output before z := by
  have filled : before label ≤ clipped labels output before y :=
    (le_clipped labels output listed before y).elim id reaches.le.trans
  have covers : clipped labels output before z ≤ clipped labels output before y := by
    rw [clipped_le_iff]
    refine ⟨clipped_nonneg _ _ _ _, fun other member => ?_⟩
    by_cases own : other = label
    · rw [own]
      exact .inl filled
    · rcases uncovered other member own with shallow | less
      · exact .inl (shallow.trans filled)
      · rcases le_max_iff.mp less with below | below
        · exact .inr (below.trans filled)
        · exact (le_clipped labels output member before y).imp_right below.trans
  have top : min (after label) (output label y) ≤ min (after label) (output label z) :=
    le_min (min_le_left _ _) high
  rw [clipped_raise listed same raised, clipped_raise listed same raised]
  rcases le_total (min (after label) (output label y)) (clipped labels output before y) with
    sunk | stands
  · rw [max_eq_left sunk, sub_self, sub_nonneg]
    exact le_max_left _ _
  · rw [max_eq_right stands]
    apply sub_le_sub _ covers
    exact top.trans (le_max_right _ _)

/-- Raising a height does not raise the torque if every sample that gains beyond the pivot
has a mirror image that gains as much. -/
theorem torque_fall {samples : List K} (distinct : samples.Nodup) {pivot : K}
    (listed : label ∈ labels) (same : ∀ other, other ≠ label → after other = before other)
    (raised : before label ≤ after label)
    (mirrored : ∀ y ∈ samples, pivot < y → before label < output label y →
      2 * pivot - y ∈ samples ∧ min (after label) (output label y) ≤ output label (2 * pivot - y) ∧
        ∀ other ∈ labels, other ≠ label → before other ≤ before label ∨
          output other (2 * pivot - y) ≤ max (before label) (output other y)) :
    torque samples pivot (clipped labels output after)
      ≤ torque samples pivot (clipped labels output before) := by
  rw [← sub_nonpos, torque_sub]
  apply sum_nonpos_of_mirror distinct (fun y => y - pivot) _ fun y => 2 * pivot - y
  · exact fun y _ => gain_nonneg listed same raised y
  · exact fun y => sub_sub_cancel _ _
  · intro y
    ring
  · intro y member beyond gains
    have reaches := gain_reaches listed same raised gains
    obtain ⟨image, high, uncovered⟩ := mirrored y member (sub_pos.mp beyond) reaches
    exact ⟨image, gain_le_gain listed same raised reaches high uncovered⟩

/-- Raising a height does not lower the torque if every sample that gains before the pivot
has a mirror image that gains as much. -/
theorem torque_rise {samples : List K} (distinct : samples.Nodup) {pivot : K}
    (listed : label ∈ labels) (same : ∀ other, other ≠ label → after other = before other)
    (raised : before label ≤ after label)
    (mirrored : ∀ y ∈ samples, y < pivot → before label < output label y →
      2 * pivot - y ∈ samples ∧ min (after label) (output label y) ≤ output label (2 * pivot - y) ∧
        ∀ other ∈ labels, other ≠ label → before other ≤ before label ∨
          output other (2 * pivot - y) ≤ max (before label) (output other y)) :
    torque samples pivot (clipped labels output before)
      ≤ torque samples pivot (clipped labels output after) := by
  have turned : ∀ y, (y - pivot)
      * (clipped labels output before y - clipped labels output after y)
        = (pivot - y) * (clipped labels output after y - clipped labels output before y) := by
    intro y
    ring
  rw [← sub_nonpos, torque_sub]
  simp only [turned]
  apply sum_nonpos_of_mirror distinct (fun y => pivot - y) _ fun y => 2 * pivot - y
  · exact fun y _ => gain_nonneg listed same raised y
  · exact fun y => sub_sub_cancel _ _
  · intro y
    ring
  · intro y member before gains
    have reaches := gain_reaches listed same raised gains
    obtain ⟨image, high, uncovered⟩ := mirrored y member (sub_pos.mp before) reaches
    exact ⟨image, gain_le_gain listed same raised reaches high uncovered⟩

/-- No sample gains more than the height is raised. -/
theorem gain_le_rise (listed : label ∈ labels)
    (same : ∀ other, other ≠ label → after other = before other)
    (raised : before label ≤ after label) (y : K) :
    clipped labels output after y - clipped labels output before y ≤ after label - before label := by
  rw [clipped_raise listed same raised, sub_le_iff_le_add]
  apply max_le
  · exact le_add_of_nonneg_left (sub_nonneg.mpr raised)
  · rcases le_clipped labels output listed before y with filled | filled
    · apply (min_le_left _ _).trans
      linarith
    · apply (min_le_right _ _).trans
      linarith

/-- Where the set reaches the new height and stands alone, a sample gains all of it. -/
theorem rise_le_gain (listed : label ∈ labels)
    (same : ∀ other, other ≠ label → after other = before other)
    (raised : before label ≤ after label) (nonneg : 0 ≤ before label) {y : K}
    (high : after label ≤ output label y)
    (alone : ∀ other ∈ labels, other = label ∨ output other y ≤ 0) :
    after label - before label ≤ clipped labels output after y - clipped labels output before y := by
  have filled : clipped labels output before y ≤ before label := by
    rw [clipped_le_iff]
    refine ⟨nonneg, fun other member => ?_⟩
    rcases alone other member with rfl | absent
    · exact .inl le_rfl
    · exact .inr (absent.trans nonneg)
  rw [clipped_raise listed same raised, min_eq_left high]
  exact sub_le_sub (le_max_right _ _) filled

variable [DecidableEq Label]

variable (labels output label) in
/-- A bound on what raising a set by one, between a floor and a cap, adds at a sample of
some weight: a positive weight counts wherever the set reaches beyond the floor, a negative
one only where it reaches the cap and stands alone. -/
def mostGain (floor cap weight y : K) : K :=
  if 0 ≤ weight then if floor < output label y then weight else 0
  else if cap ≤ output label y ∧ ∀ other ∈ labels, other = label ∨ output other y ≤ 0 then weight
  else 0

/-- The bound holds at every sample. -/
theorem weighted_gain_le (listed : label ∈ labels)
    (same : ∀ other, other ≠ label → after other = before other)
    (raised : before label ≤ after label) (nonneg : 0 ≤ before label) {floor cap : K}
    (above : floor ≤ before label) (below : after label ≤ cap) (weight y : K) :
    weight * (clipped labels output after y - clipped labels output before y)
      ≤ (after label - before label) * mostGain labels output label floor cap weight y := by
  have rise : 0 ≤ after label - before label := sub_nonneg.mpr raised
  have least : 0 ≤ clipped labels output after y - clipped labels output before y :=
    gain_nonneg listed same raised y
  unfold mostGain
  by_cases heavy : 0 ≤ weight
  · rw [if_pos heavy]
    by_cases reaches : floor < output label y
    · rw [if_pos reaches, mul_comm]
      exact mul_le_mul_of_nonneg_right (gain_le_rise listed same raised y) heavy
    · have nothing : clipped labels output after y - clipped labels output before y ≤ 0 :=
        not_lt.mp fun gains => reaches (above.trans_lt (gain_reaches listed same raised gains))
      rw [if_neg reaches, le_antisymm nothing least, mul_zero, mul_zero]
  · rw [if_neg heavy]
    have light := (not_le.mp heavy).le
    by_cases fills : cap ≤ output label y ∧ ∀ other ∈ labels, other = label ∨ output other y ≤ 0
    · rw [if_pos fills, mul_comm]
      apply mul_le_mul_of_nonpos_right _ light
      exact rise_le_gain listed same raised nonneg (below.trans fills.1) fills.2
    · rw [if_neg fills, mul_zero]
      exact mul_nonpos_of_nonpos_of_nonneg light least

/-- What raising a height adds to the torque at most. -/
theorem torque_gain (samples : List K) (pivot : K) (listed : label ∈ labels)
    (same : ∀ other, other ≠ label → after other = before other)
    (raised : before label ≤ after label) (nonneg : 0 ≤ before label) {floor cap : K}
    (above : floor ≤ before label) (below : after label ≤ cap) :
    torque samples pivot (clipped labels output after)
        - torque samples pivot (clipped labels output before)
      ≤ (after label - before label)
        * (samples.map fun y => mostGain labels output label floor cap (y - pivot) y).sum := by
  rw [torque_sub, ← List.sum_map_mul_left]
  exact List.sum_le_sum fun y _ => weighted_gain_le listed same raised nonneg above below _ y

/-- What raising a height takes from the torque at most. -/
theorem torque_loss (samples : List K) (pivot : K) (listed : label ∈ labels)
    (same : ∀ other, other ≠ label → after other = before other)
    (raised : before label ≤ after label) (nonneg : 0 ≤ before label) {floor cap : K}
    (above : floor ≤ before label) (below : after label ≤ cap) :
    torque samples pivot (clipped labels output before)
        - torque samples pivot (clipped labels output after)
      ≤ (after label - before label)
        * (samples.map fun y => mostGain labels output label floor cap (pivot - y) y).sum := by
  have turned : ∀ y, (y - pivot)
      * (clipped labels output before y - clipped labels output after y)
        = (pivot - y) * (clipped labels output after y - clipped labels output before y) := by
    intro y
    ring
  rw [torque_sub, ← List.sum_map_mul_left]
  simp only [turned]
  exact List.sum_le_sum fun y _ => weighted_gain_le listed same raised nonneg above below _ y

end Layers

end Microgrid.FuzzyControl
