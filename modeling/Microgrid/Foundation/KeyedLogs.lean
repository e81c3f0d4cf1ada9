import Mathlib.Data.List.DropRight

/-!
# Logs by key

A log lists entries under keys in the order in which they arrived. Of each key a window
keeps the last entries only, as many as its capacity. Appending to a window and dropping
what no longer fits yields the window of the longer log, so a window never needs more than
its own entries.
-/

namespace Microgrid.KeyedLogs

variable {κ α : Type}

/-- The entries under a key, in the order of the log. -/
def entriesOf [DecidableEq κ] (key : κ) (log : List (κ × α)) : List α :=
  log.filterMap fun entry => if entry.1 = key then some entry.2 else none

@[simp] theorem entriesOf_nil [DecidableEq κ] (key : κ) :
    entriesOf key ([] : List (κ × α)) = [] := rfl

/-- An entry goes to the end of what its key has. -/
theorem entriesOf_append_self [DecidableEq κ] (key : κ) (log : List (κ × α)) (value : α) :
    entriesOf key (log ++ [(key, value)]) = entriesOf key log ++ [value] := by
  rw [entriesOf, List.filterMap_append, ← entriesOf, List.filterMap_cons, if_pos rfl,
    List.filterMap_nil]

/-- Other keys are not concerned. -/
theorem entriesOf_append_ne [DecidableEq κ] {key other : κ} (different : other ≠ key)
    (log : List (κ × α)) (value : α) :
    entriesOf other (log ++ [(key, value)]) = entriesOf other log := by
  rw [entriesOf, List.filterMap_append, ← entriesOf, List.filterMap_cons,
    if_neg different.symm, List.filterMap_nil, List.append_nil]

/-- A key has entries if it occurs in the log. -/
theorem entriesOf_ne_nil_iff [DecidableEq κ] (key : κ) (log : List (κ × α)) :
    entriesOf key log ≠ [] ↔ key ∈ log.map Prod.fst := by
  induction log with
  | nil => simp
  | cons entry rest inductionHypothesis =>
    obtain ⟨found, value⟩ := entry
    by_cases same : found = key
    · simp [entriesOf, same]
    · have apart : key ≠ found := fun equal => same equal.symm
      rw [List.map_cons, List.mem_cons, or_iff_right apart, ← inductionHypothesis, entriesOf,
        List.filterMap_cons, if_neg same, ← entriesOf]

/-! ### Windows -/

/-- A window of a list that fits is the list. -/
theorem rtake_of_length_le {capacity : ℕ} {entries : List α} (fits : entries.length ≤ capacity) :
    entries.rtake capacity = entries := by
  rw [List.rtake, Nat.sub_eq_zero_of_le fits, List.drop_zero]

theorem rtake_length (capacity : ℕ) (entries : List α) :
    (entries.rtake capacity).length = min capacity entries.length := by
  rw [List.rtake, List.length_drop]
  omega

/-- A window of a window. -/
theorem rtake_rtake (count capacity : ℕ) (entries : List α) :
    (entries.rtake capacity).rtake count = entries.rtake (min count capacity) := by
  rw [List.rtake, rtake_length, List.rtake, List.drop_drop, List.rtake]
  congr 1
  omega

/-- Appending to a window: what falls out at the front was not in the longer window. -/
theorem rtake_append_rtake (capacity : ℕ) (entries : List α) (value : α) :
    (entries.rtake capacity ++ [value]).rtake capacity = (entries ++ [value]).rtake capacity := by
  cases capacity with
  | zero => rw [List.rtake_zero, List.rtake_zero]
  | succ capacity =>
    rw [List.rtake_concat_succ, List.rtake_concat_succ, rtake_rtake]
    congr 2
    omega

end Microgrid.KeyedLogs
