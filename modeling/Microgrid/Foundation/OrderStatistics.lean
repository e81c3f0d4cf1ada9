import Mathlib.Data.List.GetD
import Mathlib.Data.List.Pairwise
import Mathlib.Data.List.Sort

/-!
# Order statistics of a list

The middle of the sorted values, or the two values around the middle. They do not depend on
the order of the list, and an interval that holds more than half of the values holds them,
wherever the other values are: of a sorted list, less than half lies on either side of the
interval, so neither side reaches the middle.
-/

namespace Microgrid.OrderStatistics

section Sorted

variable {α : Type*} [LinearOrder α]

/-- The values in ascending order. -/
def ascending (values : List α) : List α := values.insertionSort (· ≤ ·)

@[simp] theorem ascending_length (values : List α) : (ascending values).length = values.length :=
  List.length_insertionSort _ values

theorem ascending_perm (values : List α) : (ascending values).Perm values :=
  List.perm_insertionSort _ values

theorem ascending_pairwise (values : List α) : (ascending values).Pairwise (· ≤ ·) :=
  List.pairwise_insertionSort _ values

/-- Two orders of the same values are sorted alike. -/
theorem ascending_congr {values others : List α} (reordered : values.Perm others) :
    ascending values = ascending others := by
  apply List.Perm.eq_of_pairwise' (ascending_pairwise values) (ascending_pairwise others)
  exact ((ascending_perm values).trans reordered).trans (ascending_perm others).symm

/-- How many values lie in an interval. -/
def within (lo hi : α) (values : List α) : ℕ :=
  values.countP fun value => decide (lo ≤ value ∧ value ≤ hi)

/-- A part of a list none of which lies in the interval. -/
theorem within_eq_zero {lo hi : α} {values : List α}
    (outside : ∀ value ∈ values, ¬(lo ≤ value ∧ value ≤ hi)) : within lo hi values = 0 := by
  apply List.countP_eq_zero.mpr
  intro value member inside
  exact outside value member (of_decide_eq_true inside)

/-- A position of a sorted list is in the interval if more values are there than behind the
position, and more than in front of it. -/
theorem getElem_mem_interval {values : List α} (sorted : values.Pairwise (· ≤ ·)) {lo hi : α}
    {index : ℕ} (inside : index < values.length)
    (behind : values.length - (index + 1) < within lo hi values)
    (front : index < within lo hi values) : lo ≤ values[index] ∧ values[index] ≤ hi := by
  have cut (size : ℕ) : within lo hi values =
      within lo hi (values.take size) + within lo hi (values.drop size) := by
    rw [within, within, within, ← List.countP_append, List.take_append_drop]
  constructor
  · -- otherwise everything up to the position is too small
    by_contra small
    have outside : ∀ value ∈ values.take (index + 1), ¬(lo ≤ value ∧ value ≤ hi) := by
      intro value member ⟨above, _⟩
      obtain ⟨position, bound, rfl⟩ := List.mem_take_iff_getElem.mp member
      have below : values[position] ≤ values[index] :=
        sorted.rel_get_of_le (a := ⟨position, by omega⟩) (b := ⟨index, inside⟩)
          (by simp only [Fin.mk_le_mk]; omega)
      exact small (above.trans below)
    have counted := cut (index + 1)
    rw [within_eq_zero outside, Nat.zero_add] at counted
    have most : within lo hi (values.drop (index + 1)) ≤ (values.drop (index + 1)).length :=
      List.countP_le_length
    rw [List.length_drop] at most
    omega
  · -- otherwise everything from the position on is too large
    by_contra large
    have outside : ∀ value ∈ values.drop index, ¬(lo ≤ value ∧ value ≤ hi) := by
      intro value member ⟨_, below⟩
      obtain ⟨offset, bound, rfl⟩ := List.mem_drop_iff_getElem.mp member
      have above : values[index] ≤ values[index + offset] :=
        sorted.rel_get_of_le (a := ⟨index, inside⟩) (b := ⟨index + offset, by omega⟩)
          (by simp only [Fin.mk_le_mk]; omega)
      exact large (above.trans below)
    have counted := cut index
    rw [within_eq_zero outside, Nat.add_zero] at counted
    have most : within lo hi (values.take index) ≤ (values.take index).length :=
      List.countP_le_length
    rw [List.length_take] at most
    omega

end Sorted

section Middle

variable {α : Type*} [LinearOrder α] [Zero α]

/-- The value before the middle of the sorted values, or the middle one of an odd number. -/
def lowerMiddle (values : List α) : α := (ascending values).getD ((values.length - 1) / 2) 0

/-- The value behind the middle of the sorted values, or the middle one of an odd number. -/
def upperMiddle (values : List α) : α := (ascending values).getD (values.length / 2) 0

/-- The middle does not depend on the order of the values. -/
theorem middle_congr {values others : List α} (reordered : values.Perm others) :
    lowerMiddle values = lowerMiddle others ∧ upperMiddle values = upperMiddle others := by
  rw [lowerMiddle, upperMiddle, ascending_congr reordered, reordered.length_eq]
  exact ⟨rfl, rfl⟩

/-- The value before the middle is the lesser one. -/
theorem lowerMiddle_le_upperMiddle (values : List α) : lowerMiddle values ≤ upperMiddle values := by
  have size := ascending_length values
  rcases Nat.eq_zero_or_pos values.length with none | some
  · rw [lowerMiddle, upperMiddle, none]
  · have inside : values.length / 2 < (ascending values).length := by omega
    have before : (values.length - 1) / 2 < (ascending values).length := by omega
    rw [lowerMiddle, upperMiddle, List.getD_eq_getElem _ _ inside, List.getD_eq_getElem _ _ before]
    exact (ascending_pairwise values).rel_get_of_le (a := ⟨_, before⟩) (b := ⟨_, inside⟩)
      (by simp only [Fin.mk_le_mk]; omega)

/-- An interval with more than half of the values holds the middle. -/
theorem middle_mem_interval {values : List α} {lo hi : α}
    (majority : values.length < 2 * within lo hi values) :
    (lo ≤ lowerMiddle values ∧ lowerMiddle values ≤ hi) ∧
      lo ≤ upperMiddle values ∧ upperMiddle values ≤ hi := by
  have counted : within lo hi (ascending values) = within lo hi values :=
    (ascending_perm values).countP_eq _
  have most : within lo hi values ≤ values.length := List.countP_le_length
  have size := ascending_length values
  have place {index : ℕ} (inside : index < (ascending values).length)
      (behind : (ascending values).length - (index + 1) < within lo hi (ascending values))
      (front : index < within lo hi (ascending values)) :
      lo ≤ (ascending values).getD index 0 ∧ (ascending values).getD index 0 ≤ hi := by
    rw [List.getD_eq_getElem _ _ inside]
    exact getElem_mem_interval (ascending_pairwise values) inside behind front
  exact ⟨place (by omega) (by omega) (by omega), place (by omega) (by omega) (by omega)⟩

end Middle

end Microgrid.OrderStatistics
