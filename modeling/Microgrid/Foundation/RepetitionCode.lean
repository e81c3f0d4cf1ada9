import Mathlib.Algebra.Order.Ring.Nat
import Mathlib.Data.List.Forall2
import Mathlib.Data.Nat.Init

/-!
# Repetition codes with helper data

A bit stands for a word of equal bits, and a noisy word decodes to one if at least `threshold`
of its bits are ones. The word that is sent is not the code word but its offset by a reference
known to both ends, or, in a key extractor, the helper data is that offset and the noisy word a
measurement of the reference. Either way the sum of the two is the code word with as many
errors as the measurement has.

A threshold that is no exact half makes the two bits unequal: `tolerance` says how many errors
each of them stands.
-/

namespace Microgrid.RepetitionCode

variable {threshold size : ℕ}

/-- The number of ones. -/
def ones (word : List Bool) : ℕ := word.count true

/-- The sum of two words. -/
def add (left right : List Bool) : List Bool := List.zipWith xor left right

/-- In how many places two words differ. -/
def distance (left right : List Bool) : ℕ := ones (add left right)

/-- The bit that a word decodes to. -/
def decode (threshold : ℕ) (word : List Bool) : Bool := decide (threshold ≤ ones word)

/-- The code word of a bit, offset by a reference. -/
def offset (bit : Bool) (reference : List Bool) : List Bool := reference.map (xor bit)

/-- The number of places in which a word differs from the code word it decodes to. -/
def corrected (threshold : ℕ) (word : List Bool) : ℕ := ones (offset (decode threshold word) word)

/-- How many errors a bit stands. -/
def tolerance (threshold size : ℕ) : Bool → ℕ
  | true => size - threshold
  | false => threshold - 1

/-- A zero leaves the reference as it is. -/
theorem offset_false (reference : List Bool) : offset false reference = reference := by
  rw [offset, show xor false = id from funext Bool.false_xor, List.map_id]

/-- A one complements it. -/
theorem ones_offset_true (word : List Bool) : ones (offset true word) + ones word = word.length := by
  induction word with
  | nil => rfl
  | cons bit rest inductionHypothesis =>
    rw [offset, ones] at inductionHypothesis
    cases bit with
    | false =>
      simp only [offset, ones, List.map_cons, Bool.xor_false, List.count_cons_self,
        List.length_cons] at inductionHypothesis ⊢
      rw [List.count_cons_of_ne (by decide)]
      omega
    | true =>
      simp only [offset, ones, List.map_cons, Bool.xor_self, List.count_cons_self,
        List.length_cons] at inductionHypothesis ⊢
      rw [List.count_cons_of_ne (by decide)]
      omega

/-- Offsetting one summand offsets the sum. -/
theorem add_offset (bit : Bool) (measured reference : List Bool) :
    add measured (offset bit reference) = offset bit (add measured reference) := by
  rw [add, offset, List.zipWith_map_right, offset, add, List.map_zipWith]
  congr
  funext left right
  exact Bool.xor_left_comm left bit right

theorem add_length {measured reference : List Bool} (same : measured.length = reference.length) :
    (add measured reference).length = reference.length := by
  rw [add, List.length_zipWith, same, Nat.min_self]

/-- A measurement of the reference decodes to the bit exactly if it has no more errors than the
bit stands. -/
theorem decode_offset (positive : 0 < threshold) (reachable : threshold ≤ size)
    {measured reference : List Bool} (sized : reference.length = size)
    (same : measured.length = reference.length) (bit : Bool) :
    decode threshold (add measured (offset bit reference)) = bit ↔
      distance measured reference ≤ tolerance threshold size bit := by
  rw [add_offset, distance]
  have length := (add_length same).trans sized
  cases bit with
  | false =>
    rw [offset_false, decode, decide_eq_false_iff_not, tolerance]
    omega
  | true =>
    have complemented := ones_offset_true (add measured reference)
    rw [decode, decide_eq_true_iff, tolerance]
    omega

/-- The errors are all counted if the bit is decoded, and the correct places otherwise. -/
theorem corrected_offset {measured reference : List Bool} (bit : Bool)
    (decoded : decode threshold (add measured (offset bit reference)) = bit) :
    corrected threshold (add measured (offset bit reference)) = distance measured reference := by
  rw [corrected, decoded, add_offset, distance]
  cases bit with
  | false => rw [offset_false, offset_false]
  | true =>
    have once := ones_offset_true (add measured reference)
    have twice := ones_offset_true (offset true (add measured reference))
    have length : (offset true (add measured reference)).length =
        (add measured reference).length := List.length_map ..
    omega

/-! ### Sequences of words -/

/-- Every word has no more errors than its bit stands. -/
def Tolerated (threshold size : ℕ) (measured reference : List (List Bool)) (bits : List Bool) :
    Prop :=
  List.Forall₂ (fun pair bit => distance pair.1 pair.2 ≤ tolerance threshold size bit)
    (measured.zip reference) bits

/-- The sums of measured words with helper data. -/
def received (measured reference : List (List Bool)) (bits : List Bool) : List (List Bool) :=
  List.zipWith add measured (List.zipWith offset bits reference)

/-- A sequence is decoded to the bits exactly if all its words are tolerated.

Induct over the bits; words and bits are used up together. -/
theorem decode_received (positive : 0 < threshold) (reachable : threshold ≤ size)
    {measured reference : List (List Bool)} {bits : List Bool}
    (sized : ∀ word ∈ reference, word.length = size)
    (measuredSized : ∀ word ∈ measured, word.length = size)
    (asMany : reference.length = bits.length) (asManyMeasured : measured.length = bits.length) :
    (received measured reference bits).map (decode threshold) = bits ↔
      Tolerated threshold size measured reference bits := by
  induction bits generalizing measured reference with
  | nil =>
    obtain rfl := List.eq_nil_of_length_eq_zero asMany
    obtain rfl := List.eq_nil_of_length_eq_zero asManyMeasured
    exact iff_of_true rfl .nil
  | cons bit bits inductionHypothesis =>
    obtain ⟨first, reference, rfl⟩ := List.exists_cons_of_length_eq_add_one asMany
    obtain ⟨read, measured, rfl⟩ := List.exists_cons_of_length_eq_add_one asManyMeasured
    have rest := inductionHypothesis (fun word member => sized word (List.mem_cons_of_mem _ member))
      (fun word member => measuredSized word (List.mem_cons_of_mem _ member))
      (Nat.succ.inj asMany) (Nat.succ.inj asManyMeasured)
    have here := decode_offset positive reachable (sized first List.mem_cons_self)
      ((measuredSized read List.mem_cons_self).trans (sized first List.mem_cons_self).symm) bit
    rw [Tolerated, List.zip_cons_cons, List.forall₂_cons, ← Tolerated, ← rest, ← here, received,
      List.zipWith_cons_cons, List.zipWith_cons_cons, List.map_cons, List.cons.injEq, ← received]

/-- The number of errors in all words. -/
def errors (measured reference : List (List Bool)) : ℕ :=
  (List.zipWith distance measured reference).sum

/-- The errors of a sequence that is decoded to the bits are all counted. -/
theorem corrected_received {measured reference : List (List Bool)} {bits : List Bool}
    (asMany : reference.length = bits.length) (asManyMeasured : measured.length = bits.length)
    (decoded : (received measured reference bits).map (decode threshold) = bits) :
    ((received measured reference bits).map (corrected threshold)).sum =
      errors measured reference := by
  induction bits generalizing measured reference with
  | nil =>
    obtain rfl := List.eq_nil_of_length_eq_zero asMany
    obtain rfl := List.eq_nil_of_length_eq_zero asManyMeasured
    rfl
  | cons bit bits inductionHypothesis =>
    obtain ⟨first, reference, rfl⟩ := List.exists_cons_of_length_eq_add_one asMany
    obtain ⟨read, measured, rfl⟩ := List.exists_cons_of_length_eq_add_one asManyMeasured
    rw [received, List.zipWith_cons_cons, List.zipWith_cons_cons, List.map_cons, ← received]
      at decoded ⊢
    obtain ⟨here, later⟩ := List.cons.inj decoded
    have rest := inductionHypothesis (Nat.succ.inj asMany) (Nat.succ.inj asManyMeasured) later
    rw [List.sum_cons, rest, corrected_offset bit here, errors, errors, List.zipWith_cons_cons,
      List.sum_cons]

end Microgrid.RepetitionCode
