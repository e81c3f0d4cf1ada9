import Mathlib.Algebra.Order.BigOperators.Group.List
import Mathlib.Algebra.Order.Field.Basic
import Mathlib.Algebra.BigOperators.Ring.List
import Mathlib.Tactic.Ring

/-!
# Fuzzy control with clipped output sets

A controller of Mamdani's kind: every rule has a firing strength and an output set, the
output sets are cut off at the strengths and united, and the action is the centroid of the
union over a finite universe of samples.

The scalars are any ordered field. Rules with a strength of zero or below contribute
nothing; where no rule fires the centroid is zero, the field's value of an empty quotient.
-/

namespace Microgrid.FuzzyControl

variable {K : Type} [Field K] [LinearOrder K]

/-- The triangle that is one at `b` and vanishes outside `a` and `c`. -/
def triangle (a b c x : K) : K :=
  if x ≤ a ∨ c ≤ x then 0 else if x ≤ b then (x - a) / (b - a) else (c - x) / (c - b)

/-- The trapezoid that is one between `b` and `c` and vanishes outside `a` and `d`. -/
def trapezoid (a b c d x : K) : K :=
  if x ≤ a ∨ d ≤ x then 0
  else if b ≤ x ∧ x ≤ c then 1
  else if x < b then (x - a) / (b - a) else (d - x) / (d - c)

/-- The union of the output sets, each cut off at the strength of its rule. -/
def aggregate (rules : List (K × (K → K))) (y : K) : K :=
  (rules.map fun rule => min rule.1 (rule.2 y)).foldr max 0

/-- The strength of the strongest rule, zero if none fires. -/
def peak (rules : List (K × (K → K))) : K := (rules.map Prod.fst).foldr max 0

/-- The centre of gravity of a set over the samples. -/
def centroid (samples : List K) (membership : K → K) : K :=
  (samples.map fun y => y * membership y).sum / (samples.map membership).sum

omit [LinearOrder K] in
/-- Where a set vanishes on all samples its centroid is zero. -/
theorem centroid_eq_zero (samples : List K) (membership : K → K)
    (vanishes : ∀ y ∈ samples, membership y = 0) : centroid samples membership = 0 := by
  have empty : (samples.map membership).sum = 0 := by
    refine List.sum_eq_zero fun value listed => ?_
    obtain ⟨y, member, rfl⟩ := List.mem_map.mp listed
    exact vanishes y member
  rw [centroid, empty, div_zero]

section Shapes

variable [IsStrictOrderedRing K]

omit [Field K] [IsStrictOrderedRing K] in
/-- Three sets that overlap one after the other cover everything between the outer feet. -/
theorem overlapping_cover {a₁ d₁ a₂ d₂ a₃ d₃ : K} (low : a₁ ≤ a₂) (first : a₂ < d₁)
    (middle : a₂ ≤ a₃) (second : a₃ < d₂) (high : d₂ ≤ d₃) (top : d₁ ≤ d₃) (x : K) :
    ((a₁ < x ∧ x < d₁) ∨ (a₂ < x ∧ x < d₂) ∨ (a₃ < x ∧ x < d₃)) ↔ a₁ < x ∧ x < d₃ := by
  constructor
  · rintro (⟨above, below⟩ | ⟨above, below⟩ | ⟨above, below⟩)
    · exact ⟨above, below.trans_le top⟩
    · exact ⟨low.trans_lt above, below.trans_le high⟩
    · exact ⟨(low.trans middle).trans_lt above, below⟩
  · rintro ⟨above, below⟩
    by_cases atLow : x < d₁
    · exact .inl ⟨above, atLow⟩
    · have reached := first.trans_le (not_lt.mp atLow)
      by_cases atMiddle : x < d₂
      · exact .inr (.inl ⟨reached, atMiddle⟩)
      · exact .inr (.inr ⟨second.trans_le (not_lt.mp atMiddle), below⟩)

/-- A triangle is positive exactly between its feet. -/
theorem triangle_pos_iff (a b c x : K) : 0 < triangle a b c x ↔ a < x ∧ x < c := by
  unfold triangle
  by_cases outside : x ≤ a ∨ c ≤ x
  · rw [if_pos outside]
    refine ⟨fun positive => absurd positive (lt_irrefl 0), ?_⟩
    rintro ⟨above, below⟩
    rcases outside with low | high
    · exact absurd above low.not_gt
    · exact absurd below high.not_gt
  · rw [if_neg outside]
    obtain ⟨above, below⟩ := not_or.mp outside
    have inside : a < x ∧ x < c := ⟨not_le.mp above, not_le.mp below⟩
    refine ⟨fun _ => inside, fun _ => ?_⟩
    by_cases left : x ≤ b
    · rw [if_pos left]
      exact div_pos (sub_pos.mpr inside.1) (sub_pos.mpr (inside.1.trans_le left))
    · rw [if_neg left]
      exact div_pos (sub_pos.mpr inside.2) (sub_pos.mpr ((not_le.mp left).trans inside.2))

/-- A trapezoid is positive exactly between its feet. -/
theorem trapezoid_pos_iff (a b c d x : K) : 0 < trapezoid a b c d x ↔ a < x ∧ x < d := by
  unfold trapezoid
  by_cases outside : x ≤ a ∨ d ≤ x
  · rw [if_pos outside]
    refine ⟨fun positive => absurd positive (lt_irrefl 0), ?_⟩
    rintro ⟨above, below⟩
    rcases outside with low | high
    · exact absurd above low.not_gt
    · exact absurd below high.not_gt
  · rw [if_neg outside]
    obtain ⟨above, below⟩ := not_or.mp outside
    have inside : a < x ∧ x < d := ⟨not_le.mp above, not_le.mp below⟩
    refine ⟨fun _ => inside, fun _ => ?_⟩
    by_cases top : b ≤ x ∧ x ≤ c
    · rw [if_pos top]
      exact one_pos
    · rw [if_neg top]
      by_cases left : x < b
      · rw [if_pos left]
        exact div_pos (sub_pos.mpr inside.1) (sub_pos.mpr (inside.1.trans left))
      · rw [if_neg left]
        have right : c < x := not_le.mp fun below => top ⟨not_lt.mp left, below⟩
        exact div_pos (sub_pos.mpr inside.2) (sub_pos.mpr (right.trans inside.2))

/-- No triangle takes a negative value. -/
theorem triangle_nonneg (a b c x : K) : 0 ≤ triangle a b c x := by
  by_cases inside : a < x ∧ x < c
  · exact ((triangle_pos_iff a b c x).mpr inside).le
  · have outside : x ≤ a ∨ c ≤ x := by
      rw [← not_lt, ← not_lt]
      exact not_and_or.mp inside
    exact (if_pos outside).ge

/-- No trapezoid takes a negative value. -/
theorem trapezoid_nonneg (a b c d x : K) : 0 ≤ trapezoid a b c d x := by
  by_cases inside : a < x ∧ x < d
  · exact ((trapezoid_pos_iff a b c d x).mpr inside).le
  · have outside : x ≤ a ∨ d ≤ x := by
      rw [← not_lt, ← not_lt]
      exact not_and_or.mp inside
    exact (if_pos outside).ge

/-- No triangle exceeds one. -/
theorem triangle_le_one (a b c x : K) : triangle a b c x ≤ 1 := by
  unfold triangle
  by_cases outside : x ≤ a ∨ c ≤ x
  · rw [if_pos outside]
    exact zero_le_one
  · rw [if_neg outside]
    obtain ⟨above, below⟩ := not_or.mp outside
    by_cases left : x ≤ b
    · rw [if_pos left, div_le_one (sub_pos.mpr ((not_le.mp above).trans_le left))]
      exact sub_le_sub_right left a
    · rw [if_neg left, div_le_one (sub_pos.mpr ((not_le.mp left).trans (not_le.mp below)))]
      exact sub_le_sub_left (not_le.mp left).le c

/-- No trapezoid exceeds one. -/
theorem trapezoid_le_one (a b c d x : K) : trapezoid a b c d x ≤ 1 := by
  unfold trapezoid
  by_cases outside : x ≤ a ∨ d ≤ x
  · rw [if_pos outside]
    exact zero_le_one
  · rw [if_neg outside]
    obtain ⟨above, below⟩ := not_or.mp outside
    by_cases top : b ≤ x ∧ x ≤ c
    · rw [if_pos top]
    · rw [if_neg top]
      by_cases left : x < b
      · rw [if_pos left, div_le_one (sub_pos.mpr ((not_le.mp above).trans left))]
        exact sub_le_sub_right left.le a
      · have right : c < x := not_le.mp fun below => top ⟨not_lt.mp left, below⟩
        rw [if_neg left, div_le_one (sub_pos.mpr (right.trans (not_le.mp below)))]
        exact sub_le_sub_left right.le d

/-- A triangle does not fall on the left of its peak. -/
theorem triangle_rising {a b c : K} (left : a < b) (right : b < c) {x z : K} (ordered : x ≤ z)
    (below : z ≤ b) : triangle a b c x ≤ triangle a b c z := by
  by_cases inside : a < x
  · have whole : ∀ y, a < y → y ≤ b → triangle a b c y = (y - a) / (b - a) := by
      intro y above under
      rw [triangle, if_neg (not_or.mpr ⟨above.not_ge, (under.trans_lt right).not_ge⟩), if_pos under]
    rw [whole x inside (ordered.trans below), whole z (inside.trans_le ordered) below]
    exact div_le_div_of_nonneg_right (sub_le_sub_right ordered a) (sub_pos.mpr left).le
  · rw [triangle, if_pos (.inl (not_lt.mp inside))]
    exact triangle_nonneg a b c z

/-- A triangle does not rise on the right of its peak. -/
theorem triangle_falling {a b c : K} (left : a < b) (right : b < c) {x z : K} (ordered : x ≤ z)
    (above : b ≤ x) : triangle a b c z ≤ triangle a b c x := by
  by_cases inside : z < c
  · have whole : ∀ y, b ≤ y → y < c → triangle a b c y = (c - y) / (c - b) := by
      intro y beyond under
      rw [triangle, if_neg (not_or.mpr ⟨(left.trans_le beyond).not_ge, under.not_ge⟩)]
      by_cases top : y ≤ b
      · rw [if_pos top, le_antisymm top beyond, div_self (sub_pos.mpr left).ne',
          div_self (sub_pos.mpr right).ne']
      · exact if_neg top
    rw [whole x above (ordered.trans_lt inside), whole z (above.trans ordered) inside]
    exact div_le_div_of_nonneg_right (sub_le_sub_left ordered c) (sub_pos.mpr right).le
  · have outside : triangle a b c z = 0 := if_pos (.inr (not_lt.mp inside))
    rw [outside]
    exact triangle_nonneg a b c x

/-- A triangle is one at its peak only. -/
theorem triangle_lt_one {a b c x : K} (apart : x ≠ b) : triangle a b c x < 1 := by
  unfold triangle
  by_cases outside : x ≤ a ∨ c ≤ x
  · rw [if_pos outside]
    exact one_pos
  · rw [if_neg outside]
    obtain ⟨above, below⟩ := not_or.mp outside
    by_cases left : x ≤ b
    · rw [if_pos left, div_lt_one (sub_pos.mpr ((not_le.mp above).trans_le left))]
      exact sub_lt_sub_right (lt_of_le_of_ne left apart) a
    · rw [if_neg left, div_lt_one (sub_pos.mpr ((not_le.mp left).trans (not_le.mp below)))]
      exact sub_lt_sub_left (not_le.mp left) c

/-- A trapezoid is one on its top only. -/
theorem trapezoid_lt_one {a b c d x : K} (apart : x < b ∨ c < x) : trapezoid a b c d x < 1 := by
  unfold trapezoid
  by_cases outside : x ≤ a ∨ d ≤ x
  · rw [if_pos outside]
    exact one_pos
  · rw [if_neg outside]
    obtain ⟨above, below⟩ := not_or.mp outside
    have sides : ¬(b ≤ x ∧ x ≤ c) := by
      rintro ⟨left, right⟩
      exact apart.elim left.not_gt right.not_gt
    rw [if_neg sides]
    by_cases left : x < b
    · rw [if_pos left, div_lt_one (sub_pos.mpr ((not_le.mp above).trans left))]
      exact sub_lt_sub_right left a
    · have right : c < x := apart.resolve_left left
      rw [if_neg left, div_lt_one (sub_pos.mpr (right.trans (not_le.mp below)))]
      exact sub_lt_sub_left right d

end Shapes

section Aggregation

/-- The union is nowhere negative. -/
theorem aggregate_nonneg (rules : List (K × (K → K))) (y : K) : 0 ≤ aggregate rules y := by
  induction rules with
  | nil => exact le_rfl
  | cons rule rest inductionHypothesis => exact inductionHypothesis.trans (le_max_right _ _)

/-- The strength of the strongest rule is not negative. -/
theorem peak_nonneg (rules : List (K × (K → K))) : 0 ≤ peak rules := by
  induction rules with
  | nil => exact le_rfl
  | cons rule rest inductionHypothesis => exact inductionHypothesis.trans (le_max_right _ _)

/-- The strongest rule fires exactly if some rule does. -/
theorem peak_pos_iff (rules : List (K × (K → K))) :
    0 < peak rules ↔ ∃ rule ∈ rules, 0 < rule.1 := by
  induction rules with
  | nil => simp [peak]
  | cons rule rest inductionHypothesis =>
    have unfolded : peak (rule :: rest) = max rule.1 (peak rest) := rfl
    rw [unfolded, lt_max_iff, inductionHypothesis, List.exists_mem_cons_iff]

/-- A bound on every strength bounds the strongest. -/
theorem peak_le (rules : List (K × (K → K))) {bound : K} (positive : 0 ≤ bound)
    (bounded : ∀ rule ∈ rules, rule.1 ≤ bound) : peak rules ≤ bound := by
  induction rules with
  | nil => exact positive
  | cons rule rest inductionHypothesis =>
    exact max_le (bounded rule List.mem_cons_self)
      (inductionHypothesis fun other member => bounded other (List.mem_cons_of_mem _ member))

/-- No rule is stronger than the strongest. -/
theorem le_peak {rules : List (K × (K → K))} {rule : K × (K → K)} (listed : rule ∈ rules) :
    rule.1 ≤ peak rules := by
  induction rules with
  | nil => exact absurd listed List.not_mem_nil
  | cons first rest inductionHypothesis =>
    rcases List.mem_cons.mp listed with rfl | later
    · exact le_max_left _ _
    · exact (inductionHypothesis later).trans (le_max_right _ _)

/-- A strict bound on every strength bounds the strongest strictly. -/
theorem peak_lt (rules : List (K × (K → K))) {bound : K} (positive : 0 < bound)
    (bounded : ∀ rule ∈ rules, rule.1 < bound) : peak rules < bound := by
  induction rules with
  | nil => exact positive
  | cons rule rest inductionHypothesis =>
    exact max_lt (bounded rule List.mem_cons_self)
      (inductionHypothesis fun other member => bounded other (List.mem_cons_of_mem _ member))

/-- Rules that share an output set act like the strongest of them. -/
theorem aggregate_uniform (rules : List (K × (K → K))) (output : K → K)
    (uniform : ∀ rule ∈ rules, 0 < rule.1 → rule.2 = output) (y : K) (positive : 0 ≤ output y) :
    aggregate rules y = min (peak rules) (output y) := by
  induction rules with
  | nil => exact (min_eq_left positive).symm
  | cons rule rest inductionHypothesis =>
    have later := inductionHypothesis fun other member =>
      uniform other (List.mem_cons_of_mem _ member)
    have union : aggregate (rule :: rest) y = max (min rule.1 (rule.2 y)) (aggregate rest y) := rfl
    have strongest : peak (rule :: rest) = max rule.1 (peak rest) := rfl
    rw [union, strongest, later]
    by_cases fires : 0 < rule.1
    · rw [uniform rule List.mem_cons_self fires, min_max_distrib_right]
    · -- a rule that does not fire is below everything the others reach
      have silent : rule.1 ≤ 0 := not_lt.mp fires
      rw [max_eq_right (silent.trans (peak_nonneg rest)), max_eq_right]
      exact ((min_le_left _ _).trans silent).trans (le_min (peak_nonneg rest) positive)

/-- The union is positive exactly where a rule that fires has a positive output set. -/
theorem aggregate_pos_iff (rules : List (K × (K → K))) (y : K) :
    0 < aggregate rules y ↔ ∃ rule ∈ rules, 0 < rule.1 ∧ 0 < rule.2 y := by
  induction rules with
  | nil => simp [aggregate]
  | cons rule rest inductionHypothesis =>
    have unfolded : aggregate (rule :: rest) y = max (min rule.1 (rule.2 y)) (aggregate rest y) := rfl
    rw [unfolded, lt_max_iff, lt_min_iff, inductionHypothesis, List.exists_mem_cons_iff]

/-- What bounds the union bounds every clipped output set. -/
theorem aggregate_le_iff (rules : List (K × (K → K))) (y bound : K) :
    aggregate rules y ≤ bound ↔ 0 ≤ bound ∧ ∀ rule ∈ rules, rule.1 ≤ bound ∨ rule.2 y ≤ bound := by
  induction rules with
  | nil => simp [aggregate]
  | cons rule rest inductionHypothesis =>
    have unfolded : aggregate (rule :: rest) y = max (min rule.1 (rule.2 y)) (aggregate rest y) := rfl
    rw [unfolded, max_le_iff, min_le_iff, inductionHypothesis, List.forall_mem_cons, and_left_comm]

/-- What bounds the strongest rule bounds every rule. -/
theorem peak_le_iff (rules : List (K × (K → K))) (bound : K) :
    peak rules ≤ bound ↔ 0 ≤ bound ∧ ∀ rule ∈ rules, rule.1 ≤ bound := by
  induction rules with
  | nil => simp [peak]
  | cons rule rest inductionHypothesis =>
    have unfolded : peak (rule :: rest) = max rule.1 (peak rest) := rfl
    rw [unfolded, max_le_iff, inductionHypothesis, List.forall_mem_cons, and_left_comm]

/-- Rules that name their output sets by labels act, label by label, like the strongest rule
of the label. -/
theorem aggregate_grouped {Row Label : Type} [DecidableEq Label] (rows : List Row)
    (strength : Row → K) (label : Row → Label) (output : Label → K → K) (labels : List Label)
    (complete : ∀ row ∈ rows, label row ∈ labels) (y : K) :
    aggregate (rows.map fun row => (strength row, output (label row))) y
      = aggregate (labels.map fun name => (peak ((rows.filter fun row => label row = name).map
          fun row => (strength row, output (label row))), output name)) y := by
  apply eq_of_forall_ge_iff
  intro bound
  simp only [aggregate_le_iff, peak_le_iff, List.forall_mem_map, List.mem_filter, decide_eq_true_eq]
  apply and_congr_right
  intro nonneg
  constructor
  · intro bounded name _
    by_cases small : output name y ≤ bound
    · exact .inr small
    · refine .inl ⟨nonneg, ?_⟩
      rintro row ⟨listed, rfl⟩
      exact (bounded row listed).resolve_right small
  · intro bounded row listed
    rcases bounded (label row) (complete row listed) with ⟨-, weak⟩ | small
    · exact .inl (weak row ⟨listed, rfl⟩)
    · exact .inr small

end Aggregation

section Centroids

variable [IsStrictOrderedRing K]

/-- A set that is positive at one sample has a positive mass. -/
theorem mass_pos (samples : List K) (membership : K → K)
    (nonneg : ∀ y ∈ samples, 0 ≤ membership y) (inhabited : ∃ y ∈ samples, 0 < membership y) :
    0 < (samples.map membership).sum := by
  obtain ⟨y, member, inside⟩ := inhabited
  apply inside.trans_le
  apply List.single_le_sum _ _ (List.mem_map_of_mem member)
  intro value listed
  obtain ⟨other, otherMember, rfl⟩ := List.mem_map.mp listed
  exact nonneg other otherMember

/-- The centroid lies between any bounds on the samples at which the set is positive. -/
theorem centroid_mem_bounds (samples : List K) (membership : K → K)
    (nonneg : ∀ y ∈ samples, 0 ≤ membership y) (inhabited : ∃ y ∈ samples, 0 < membership y)
    {lo hi : K} (bounded : ∀ y ∈ samples, 0 < membership y → lo ≤ y ∧ y ≤ hi) :
    lo ≤ centroid samples membership ∧ centroid samples membership ≤ hi := by
  have mass := mass_pos samples membership nonneg inhabited
  have weighted : ∀ y ∈ samples,
      lo * membership y ≤ y * membership y ∧ y * membership y ≤ hi * membership y := by
    intro y member
    rcases (nonneg y member).eq_or_lt with vanishes | inside
    · rw [← vanishes, mul_zero, mul_zero, mul_zero]
      exact ⟨le_rfl, le_rfl⟩
    · obtain ⟨above, below⟩ := bounded y member inside
      exact ⟨mul_le_mul_of_nonneg_right above inside.le, mul_le_mul_of_nonneg_right below inside.le⟩
  unfold centroid
  constructor
  · rw [le_div_iff₀ mass, ← List.sum_map_mul_left]
    exact List.sum_le_sum fun y member => (weighted y member).1
  · rw [div_le_iff₀ mass, ← List.sum_map_mul_left]
    exact List.sum_le_sum fun y member => (weighted y member).2

/-- Cutting a set off at `strength` moves its centroid no lower than to the average of
`y * output y` over the samples at which the set is positive.

The cut set lies between `strength * output` and `strength` on these samples. -/
theorem le_centroid_clip (samples : List K) (output : K → K) (strength : K)
    (positive : 0 < strength) (atMostOne : strength ≤ 1)
    (ordinary : ∀ y ∈ samples, 0 ≤ y ∧ 0 ≤ output y ∧ output y ≤ 1)
    (inhabited : ∃ y ∈ samples, 0 < output y) :
    (samples.map fun y => y * output y).sum / (samples.map fun y => if 0 < output y then 1 else 0).sum
      ≤ centroid samples fun y => min strength (output y) := by
  have above : ∀ y ∈ samples, strength * output y ≤ min strength (output y) := by
    intro y member
    obtain ⟨-, nonneg, small⟩ := ordinary y member
    exact le_min (mul_le_of_le_one_right positive.le small) (mul_le_of_le_one_left nonneg atMostOne)
  have numerator : strength * (samples.map fun y => y * output y).sum
      ≤ (samples.map fun y => y * min strength (output y)).sum := by
    rw [← List.sum_map_mul_left]
    refine List.sum_le_sum fun y member => ?_
    calc strength * (y * output y) = y * (strength * output y) := mul_left_comm _ _ _
      _ ≤ y * min strength (output y) :=
        mul_le_mul_of_nonneg_left (above y member) (ordinary y member).1
  have denominator : (samples.map fun y => min strength (output y)).sum
      ≤ strength * (samples.map fun y => if 0 < output y then 1 else 0).sum := by
    rw [← List.sum_map_mul_left]
    refine List.sum_le_sum fun y member => ?_
    by_cases inside : 0 < output y
    · rw [if_pos inside, mul_one]
      exact min_le_left _ _
    · rw [if_neg inside, mul_zero]
      exact (min_le_right _ _).trans (not_lt.mp inside)
  have mass : 0 < (samples.map fun y => min strength (output y)).sum := by
    apply mass_pos samples fun y => min strength (output y)
    · exact fun y member => le_min positive.le (ordinary y member).2.1
    · obtain ⟨y, member, inside⟩ := inhabited
      exact ⟨y, member, lt_min positive inside⟩
  have support : 0 < (samples.map fun y => if 0 < output y then (1 : K) else 0).sum :=
    pos_of_mul_pos_right (mass.trans_le denominator) positive.le
  have weight : 0 ≤ (samples.map fun y => y * output y).sum := by
    refine List.sum_nonneg fun value listed => ?_
    obtain ⟨y, member, rfl⟩ := List.mem_map.mp listed
    exact mul_nonneg (ordinary y member).1 (ordinary y member).2.1
  unfold centroid
  rw [div_le_div_iff₀ support mass]
  calc (samples.map fun y => y * output y).sum * (samples.map fun y => min strength (output y)).sum
      ≤ (samples.map fun y => y * output y).sum
          * (strength * (samples.map fun y => if 0 < output y then 1 else 0).sum) :=
        mul_le_mul_of_nonneg_left denominator weight
    _ = strength * (samples.map fun y => y * output y).sum
          * (samples.map fun y => if 0 < output y then 1 else 0).sum := by ring
    _ ≤ (samples.map fun y => y * min strength (output y)).sum
          * (samples.map fun y => if 0 < output y then 1 else 0).sum :=
        mul_le_mul_of_nonneg_right numerator support.le

end Centroids

section Ratios

/-- The centroids of two sets compared crosswise, positive if that of `upper` is greater. -/
def skew (samples : List K) (lower upper : K → K) : K :=
  (samples.map fun y => y * upper y).sum * (samples.map lower).sum
    - (samples.map fun y => y * lower y).sum * (samples.map upper).sum

omit [LinearOrder K] in
/-- What one more sample contributes against the others. -/
theorem skew_cons (x : K) (samples : List K) (lower upper : K → K) :
    skew (x :: samples) lower upper = skew samples lower upper
      + (samples.map fun z => (x - z) * (upper x * lower z - lower x * upper z)).sum := by
  have contribution : (samples.map fun z => (x - z) * (upper x * lower z - lower x * upper z)).sum
      = x * upper x * (samples.map lower).sum - x * lower x * (samples.map upper).sum
        - upper x * (samples.map fun y => y * lower y).sum
        + lower x * (samples.map fun y => y * upper y).sum := by
    induction samples with
    | nil => simp
    | cons z rest inductionHypothesis =>
      simp only [List.map_cons, List.sum_cons, inductionHypothesis]
      ring
  rw [contribution]
  simp only [skew, List.map_cons, List.sum_cons]
  ring

variable [IsStrictOrderedRing K]

/-- A pair of samples contributes no less than nothing where the ratio of the sets grows. -/
theorem pair_nonneg {lower upper : K → K} {x z : K}
    (forward : x ≤ z → lower z * upper x ≤ lower x * upper z)
    (backward : z ≤ x → lower x * upper z ≤ lower z * upper x) :
    0 ≤ (x - z) * (upper x * lower z - lower x * upper z) := by
  rcases le_total x z with ordered | ordered
  · have ratio := forward ordered
    apply mul_nonneg_of_nonpos_of_nonpos (sub_nonpos.mpr ordered)
    rw [sub_nonpos, mul_comm]
    exact ratio
  · have ratio := backward ordered
    apply mul_nonneg (sub_nonneg.mpr ordered)
    rw [sub_nonneg, mul_comm (upper x)]
    exact ratio

/-- Where the ratio of `upper` to `lower` never falls, the centroid of `upper` is no lower. -/
theorem skew_nonneg (samples : List K) {lower upper : K → K}
    (ratio : ∀ y ∈ samples, ∀ z ∈ samples, y ≤ z → lower z * upper y ≤ lower y * upper z) :
    0 ≤ skew samples lower upper := by
  induction samples with
  | nil => simp [skew]
  | cons x rest inductionHypothesis =>
    rw [skew_cons]
    apply add_nonneg
    · exact inductionHypothesis fun y member z other =>
        ratio y (List.mem_cons_of_mem _ member) z (List.mem_cons_of_mem _ other)
    · apply List.sum_nonneg
      intro value listed
      obtain ⟨z, member, rfl⟩ := List.mem_map.mp listed
      apply pair_nonneg
      · exact ratio x List.mem_cons_self z (List.mem_cons_of_mem _ member)
      · exact ratio z (List.mem_cons_of_mem _ member) x List.mem_cons_self

/-- If it rises somewhere, the centroid of `upper` is higher. -/
theorem skew_pos (samples : List K) {lower upper : K → K}
    (ratio : ∀ y ∈ samples, ∀ z ∈ samples, y ≤ z → lower z * upper y ≤ lower y * upper z)
    {low high : K} (lowListed : low ∈ samples) (highListed : high ∈ samples) (apart : low < high)
    (rises : lower high * upper low < lower low * upper high) : 0 < skew samples lower upper := by
  induction samples with
  | nil => exact absurd lowListed List.not_mem_nil
  | cons x rest inductionHypothesis =>
    have later : ∀ y ∈ rest, ∀ z ∈ rest, y ≤ z → lower z * upper y ≤ lower y * upper z :=
      fun y member z other =>
        ratio y (List.mem_cons_of_mem _ member) z (List.mem_cons_of_mem _ other)
    have pairs : ∀ value ∈ rest.map fun z => (x - z) * (upper x * lower z - lower x * upper z),
        0 ≤ value := by
      intro value listed
      obtain ⟨z, member, rfl⟩ := List.mem_map.mp listed
      apply pair_nonneg
      · exact ratio x List.mem_cons_self z (List.mem_cons_of_mem _ member)
      · exact ratio z (List.mem_cons_of_mem _ member) x List.mem_cons_self
    have strict {z : K} (member : z ∈ rest)
        (positive : 0 < (x - z) * (upper x * lower z - lower x * upper z)) :
        0 < (rest.map fun z => (x - z) * (upper x * lower z - lower x * upper z)).sum :=
      positive.trans_le (List.single_le_sum pairs _ (List.mem_map_of_mem member))
    rw [skew_cons]
    rcases List.mem_cons.mp lowListed with rfl | lowLater
    · -- the first sample is the lower of the pair, so the other one comes later
      have member : high ∈ rest := (List.mem_cons.mp highListed).resolve_left apart.ne'
      apply add_pos_of_nonneg_of_pos (skew_nonneg rest later)
      apply strict member
      apply mul_pos_of_neg_of_neg (sub_neg.mpr apart)
      rw [sub_neg, mul_comm]
      exact rises
    · rcases List.mem_cons.mp highListed with rfl | highLater
      · apply add_pos_of_nonneg_of_pos (skew_nonneg rest later)
        apply strict lowLater
        apply mul_pos (sub_pos.mpr apart)
        rw [sub_pos, mul_comm (upper high)]
        exact rises
      · exact add_pos_of_pos_of_nonneg (inductionHypothesis later lowLater highLater)
          (List.sum_nonneg pairs)

/-- The comparison decides the order of the centroids. -/
theorem centroid_le_iff (samples : List K) {lower upper : K → K}
    (lowerMass : 0 < (samples.map lower).sum) (upperMass : 0 < (samples.map upper).sum) :
    centroid samples lower ≤ centroid samples upper ↔ 0 ≤ skew samples lower upper := by
  rw [centroid, centroid, div_le_div_iff₀ lowerMass upperMass, skew, sub_nonneg]

/-- The comparison decides the strict order of the centroids. -/
theorem centroid_lt_iff (samples : List K) {lower upper : K → K}
    (lowerMass : 0 < (samples.map lower).sum) (upperMass : 0 < (samples.map upper).sum) :
    centroid samples lower < centroid samples upper ↔ 0 < skew samples lower upper := by
  rw [centroid, centroid, div_lt_div_iff₀ lowerMass upperMass, skew, sub_pos]

/-- Cutting a set off lower raises its lower degrees against its higher ones. -/
theorem min_mul_min_le {weak strong less more : K} (nonneg : 0 ≤ weak) (weaker : weak ≤ strong)
    (positive : 0 ≤ less) (lower : less ≤ more) :
    min weak more * min strong less ≤ min strong more * min weak less := by
  by_cases cut : weak ≤ less
  · rw [min_eq_left cut, min_eq_left (cut.trans lower), mul_comm]
    exact mul_le_mul_of_nonneg_right (min_le_min_left strong lower) nonneg
  · have uncut := (not_le.mp cut).le
    rw [min_eq_right uncut, min_eq_right (uncut.trans weaker)]
    exact mul_le_mul_of_nonneg_right (min_le_min_right more weaker) positive

/-- What holds of the ratio of every clipped output set holds of their union. -/
theorem aggregate_ratio (rules : List (K × (K → K))) {y z less more : K} (nonneg : 0 ≤ less)
    (positive : 0 ≤ more)
    (ratio : ∀ rule ∈ rules, less * min rule.1 (rule.2 y) ≤ more * min rule.1 (rule.2 z)) :
    less * aggregate rules y ≤ more * aggregate rules z := by
  induction rules with
  | nil => simp [aggregate]
  | cons rule rest inductionHypothesis =>
    have unfolded : ∀ x, aggregate (rule :: rest) x
        = max (min rule.1 (rule.2 x)) (aggregate rest x) := fun _ => rfl
    rw [unfolded, unfolded, mul_max_of_nonneg _ _ nonneg, mul_max_of_nonneg _ _ positive]
    apply max_le_max
    · exact ratio rule List.mem_cons_self
    · exact inductionHypothesis fun other member => ratio other (List.mem_cons_of_mem _ member)

end Ratios

end Microgrid.FuzzyControl
