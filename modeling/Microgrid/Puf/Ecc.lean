import Mathlib.Data.List.Forall2
import Microgrid.Puf.BitArray

/-!
# Stable bits and the repetition code

`ecc.c` of the PUF library, without its storage. From counts of how often each bit of
the SRAM came up as one, it selects the bits that always came up the same, records which
they are, and encodes the selected bits eight at a time: one byte of selected bits stands
for one bit of the response, and the helper byte moves it next to `0x00` or `0xFF`.

Both tables are kept as the source has them. `decode_template` is the property that the
reconstruction rests on: whatever byte was enrolled, a measurement that differs from it
in at most three places decodes to the bit of the template.
-/

namespace Microgrid.Puf

/-- `PROVISIONING_MEASUREMENTS`. -/
def provisioningMeasurements : Nat := 20

/-- `MASK_LOWER_BOUND`, `round(20 * 0.001)`. -/
def maskLowerBound : Nat := 0

/-- `MASK_UPPER_BOUND`, `round(20 * (1 - 0.001))`. -/
def maskUpperBound : Nat := 20

/-- `majority_table`. -/
def majorityTable : List Nat := [
  0, 0, 0, 0, 0, 0, 0, 0, 0, 0, 0, 0, 0, 0, 0, 0,
  0, 0, 0, 0, 0, 0, 0, 0, 0, 0, 0, 0, 0, 0, 0, 1,
  0, 0, 0, 0, 0, 0, 0, 0, 0, 0, 0, 0, 0, 0, 0, 1,
  0, 0, 0, 0, 0, 0, 0, 1, 0, 0, 0, 1, 0, 1, 1, 1,
  0, 0, 0, 0, 0, 0, 0, 0, 0, 0, 0, 0, 0, 0, 0, 1,
  0, 0, 0, 0, 0, 0, 0, 1, 0, 0, 0, 1, 0, 1, 1, 1,
  0, 0, 0, 0, 0, 0, 0, 1, 0, 0, 0, 1, 0, 1, 1, 1,
  0, 0, 0, 1, 0, 1, 1, 1, 0, 1, 1, 1, 1, 1, 1, 1,
  0, 0, 0, 0, 0, 0, 0, 0, 0, 0, 0, 0, 0, 0, 0, 1,
  0, 0, 0, 0, 0, 0, 0, 1, 0, 0, 0, 1, 0, 1, 1, 1,
  0, 0, 0, 0, 0, 0, 0, 1, 0, 0, 0, 1, 0, 1, 1, 1,
  0, 0, 0, 1, 0, 1, 1, 1, 0, 1, 1, 1, 1, 1, 1, 1,
  0, 0, 0, 0, 0, 0, 0, 1, 0, 0, 0, 1, 0, 1, 1, 1,
  0, 0, 0, 1, 0, 1, 1, 1, 0, 1, 1, 1, 1, 1, 1, 1,
  0, 0, 0, 1, 0, 1, 1, 1, 0, 1, 1, 1, 1, 1, 1, 1,
  0, 1, 1, 1, 1, 1, 1, 1, 1, 1, 1, 1, 1, 1, 1, 1]

/-- `hw_table`. -/
def hwTable : List Nat := [
  0, 1, 1, 2, 1, 2, 2, 3, 1, 2, 2, 3, 2, 3, 3, 4,
  1, 2, 2, 3, 2, 3, 3, 4, 2, 3, 3, 4, 3, 4, 4, 5,
  1, 2, 2, 3, 2, 3, 3, 4, 2, 3, 3, 4, 3, 4, 4, 5,
  2, 3, 3, 4, 3, 4, 4, 5, 3, 4, 4, 5, 4, 5, 5, 6,
  1, 2, 2, 3, 2, 3, 3, 4, 2, 3, 3, 4, 3, 4, 4, 5,
  2, 3, 3, 4, 3, 4, 4, 5, 3, 4, 4, 5, 4, 5, 5, 6,
  2, 3, 3, 4, 3, 4, 4, 5, 3, 4, 4, 5, 4, 5, 5, 6,
  3, 4, 4, 5, 4, 5, 5, 6, 4, 5, 5, 6, 5, 6, 6, 7,
  1, 2, 2, 3, 2, 3, 3, 4, 2, 3, 3, 4, 3, 4, 4, 5,
  2, 3, 3, 4, 3, 4, 4, 5, 3, 4, 4, 5, 4, 5, 5, 6,
  2, 3, 3, 4, 3, 4, 4, 5, 3, 4, 4, 5, 4, 5, 5, 6,
  3, 4, 4, 5, 4, 5, 5, 6, 4, 5, 5, 6, 5, 6, 6, 7,
  2, 3, 3, 4, 3, 4, 4, 5, 3, 4, 4, 5, 4, 5, 5, 6,
  3, 4, 4, 5, 4, 5, 5, 6, 4, 5, 5, 6, 5, 6, 6, 7,
  3, 4, 4, 5, 4, 5, 5, 6, 4, 5, 5, 6, 5, 6, 6, 7,
  4, 5, 5, 6, 5, 6, 6, 7, 5, 6, 6, 7, 6, 7, 7, 8]

/-- `majority_table[code_word]`, as the bit it is appended as. -/
def majority (codeWord : UInt8) : Bool := majorityTable.getD codeWord.toNat 0 != 0

/-- `hamming_weight`. -/
def hammingWeight (data : Bytes) : Nat := (data.map fun byte => hwTable.getD byte.toNat 0).sum

/-- `generate_ecc_data`. -/
def generateEccData (pufReference : Bytes) : Bytes :=
  pufReference.map fun byte => if highestBit byte then ~~~byte else byte

/-- `generate_ecc_data_template`. -/
def generateEccDataTemplate (pufReference templateReference : Bytes) : Bytes :=
  List.zipWith (fun byte template => if highestBit template then ~~~byte else byte) pufReference
    templateReference

/-- `correct_data`: the response, and the number of bits corrected. -/
def correctData (maskedData eccData : Bytes) (resLen : Nat) : Option (Bytes × Nat) := do
  guard (resLen = maskedData.length / 8)
  let codeWords := List.zipWith (· ^^^ ·) maskedData eccData
  let arr ← (codeWords.map majority).foldlM BitArray.append (BitArray.init resLen)
  let corrected := codeWords.map fun codeWord =>
    if majority codeWord then ~~~codeWord else codeWord
  return (arr.copyData, hammingWeight corrected)

/-- A bit that came up the same in every measurement. -/
def stableBit (freq : Nat) : Bool := freq ≥ maskUpperBound || freq ≤ maskLowerBound

/-- `create_puf_mask`: the mask and its rounded weight. -/
def createPufMask (pufFreq : List Nat) (maskLen : Nat) : Option (Bytes × Nat) := do
  guard (pufFreq.length = maskLen * 8)
  let bits := pufFreq.map stableBit
  let arr ← bits.foldlM BitArray.append (BitArray.init maskLen)
  let maskHw := bits.count true
  return (arr.copyData, maskHw - maskHw % 64)

/-- The loop of `apply_puf_mask` over the bits of the mask and of the response. The
counter is checked after a bit was appended. -/
def applyLoop (maskHw : Nat) : List (Bool × Bool) → BitArray → Nat → Option BitArray
  | [], arr, _ => some arr
  | (false, _) :: rest, arr, counter => applyLoop maskHw rest arr counter
  | (true, bit) :: rest, arr, counter => do
    let arr ← arr.append bit
    if counter + 1 ≥ maskHw then some arr else applyLoop maskHw rest arr (counter + 1)

/-- `apply_puf_mask`. -/
def applyPufMask (mask : Bytes) (maskHw : Nat) (pufResponse : Bytes) (resLen : Nat) :
    Option Bytes := do
  guard (resLen = maskHw / 8)
  let arr ← applyLoop maskHw ((readBits mask).zip (readBits pufResponse)) (BitArray.init resLen) 0
  return arr.copyData

/-- The enrolled value of a bit: one in more than half of the measurements. -/
def referenceBit (freq : Nat) : Bool := freq > provisioningMeasurements / 2

/-- `create_puf_reference`. -/
def createPufReference (pufFreq : List Nat) (refLen : Nat) : Option Bytes := do
  guard (pufFreq.length = refLen * 8)
  let arr ← (pufFreq.map referenceBit).foldlM BitArray.append (BitArray.init refLen)
  return arr.copyData

/-! ### What the loops compute -/

/-- A whole buffer is filled by as many bits as it has. -/
theorem fill (bits : List Bool) {len : Nat} (size : bits.length = len * 8) :
    ∃ arr, bits.foldlM BitArray.append (BitArray.init len) = some arr ∧ arr.bits = bits := by
  have fits : ((BitArray.init len).bits ++ bits).length ≤ (BitArray.init len).len * 8 := by
    simp [BitArray.init, size]
  rw [BitArray.append_all, dif_pos fits]
  exact ⟨_, rfl, rfl⟩

/-- The number of bits that came up the same every time. -/
def stableCount (pufFreq : List Nat) : Nat := (pufFreq.map stableBit).count true

/-- The mask marks the stable bits. -/
theorem createPufMask_eq (pufFreq : List Nat) {maskLen : Nat} (size : pufFreq.length = maskLen * 8) :
    createPufMask pufFreq maskLen = some (packBytes (pufFreq.map stableBit),
      stableCount pufFreq - stableCount pufFreq % 64) := by
  obtain ⟨arr, filled, holds⟩ := fill (pufFreq.map stableBit) (by simpa using size)
  simp [createPufMask, guard, size, filled, BitArray.copyData, holds, stableCount]

/-- The reference has the majority of every bit. -/
theorem createPufReference_eq (pufFreq : List Nat) {refLen : Nat}
    (size : pufFreq.length = refLen * 8) :
    createPufReference pufFreq refLen = some (packBytes (pufFreq.map referenceBit)) := by
  obtain ⟨arr, filled, holds⟩ := fill (pufFreq.map referenceBit) (by simpa using size)
  simp [createPufReference, guard, size, filled, BitArray.copyData, holds]

/-- The bits of a response that a mask selects. -/
def selected (pairs : List (Bool × Bool)) : List Bool := (pairs.filter Prod.fst).map Prod.snd

/-- The loop takes selected bits until it has as many as it was asked for.

Induct over the bits; the array always holds as many as the counter says. -/
theorem applyLoop_eq (maskHw : Nat) (pairs : List (Bool × Bool)) (arr : BitArray) (counter : Nat)
    (below : counter < maskHw) (holds : arr.bits.length = counter) (room : maskHw ≤ arr.len * 8) :
    ∃ result, applyLoop maskHw pairs arr counter = some result ∧
      result.bits = arr.bits ++ (selected pairs).take (maskHw - counter) := by
  induction pairs generalizing arr counter with
  | nil => exact ⟨arr, rfl, by simp [selected]⟩
  | cons pair rest inductionHypothesis =>
    obtain ⟨marked, bit⟩ := pair
    cases marked with
    | false => exact inductionHypothesis arr counter below holds room
    | true =>
      have free : arr.len * 8 > arr.bits.length := by omega
      have one : maskHw - counter = (maskHw - (counter + 1)) + 1 := by omega
      have next : selected ((true, bit) :: rest) = bit :: selected rest := rfl
      unfold applyLoop
      rw [BitArray.append, dif_pos free]
      dsimp only [Option.bind_eq_bind, Option.bind_some]
      by_cases done : counter + 1 ≥ maskHw
      · have last : maskHw - (counter + 1) = 0 := by omega
        rw [if_pos done, one, last, next]
        exact ⟨_, rfl, by simp⟩
      · rw [if_neg done]
        obtain ⟨result, finished, bits⟩ := inductionHypothesis
          ⟨arr.bits ++ [bit], arr.len, by simp only [List.length_append, List.length_singleton]; omega⟩
          (counter + 1) (by omega) (by simp [holds]) room
        refine ⟨result, finished, ?_⟩
        rw [bits, one, next, List.take_succ_cons, List.append_assoc, List.singleton_append]

/-- With no room at all, the loop fails at the first selected bit. -/
theorem applyLoop_empty (pairs : List (Bool × Bool)) (counter : Nat) :
    applyLoop 0 pairs (BitArray.init 0) counter =
      if selected pairs = [] then some (BitArray.init 0) else none := by
  induction pairs generalizing counter with
  | nil => rfl
  | cons pair rest inductionHypothesis =>
    obtain ⟨marked, bit⟩ := pair
    cases marked with
    | false => exact inductionHypothesis counter
    | true => simp [applyLoop, BitArray.append, BitArray.init, selected]

/-- The selected bits, packed. -/
theorem applyPufMask_eq (mask pufResponse : Bytes) {maskHw : Nat} (positive : 0 < maskHw)
    (whole : maskHw % 8 = 0) :
    applyPufMask mask maskHw pufResponse (maskHw / 8) =
      some (packBytes ((selected ((readBits mask).zip (readBits pufResponse))).take maskHw)) := by
  obtain ⟨arr, finished, bits⟩ := applyLoop_eq maskHw ((readBits mask).zip (readBits pufResponse))
    (BitArray.init (maskHw / 8)) 0 positive rfl (by simp only [BitArray.init]; omega)
  have packed : arr.bits =
      (selected ((readBits mask).zip (readBits pufResponse))).take maskHw := by
    simpa [BitArray.init] using bits
  simp [applyPufMask, guard, finished, BitArray.copyData, packed]

/-- As many bits are selected as the mask marks. -/
theorem selected_length {mask response : List Bool} (same : mask.length = response.length) :
    (selected (mask.zip response)).length = mask.count true := by
  induction mask generalizing response with
  | nil => rfl
  | cons marked rest inductionHypothesis =>
    cases response with
    | nil => simp at same
    | cons bit bits =>
      have shorter := inductionHypothesis (Nat.succ.inj same)
      cases marked <;> simpa [selected] using shorter

/-! ### Decoding -/

/-- The number of ones in a byte. -/
def weight (byte : UInt8) : Nat := (List.range 8).countP (getBit byte)

/-- In how many places two bytes differ. -/
def differing (left right : UInt8) : Nat :=
  (List.range 8).countP fun place => getBit left place != getBit right place

/-- What holds of every byte value holds of every byte. -/
theorem forall_byte (property : UInt8 → Prop) (table : ∀ value < 256, property (UInt8.ofNat value))
    (byte : UInt8) : property byte := by
  have found := table byte.toNat byte.toNat_lt
  rwa [UInt8.ofNat_toNat] at found

/-- `hw_table` counts ones. -/
theorem hwTable_weight (byte : UInt8) : hwTable.getD byte.toNat 0 = weight byte :=
  forall_byte (fun byte => hwTable.getD byte.toNat 0 = weight byte) (by decide +kernel) byte

/-- `majority_table` is one from five ones on. -/
theorem majority_weight (byte : UInt8) : majority byte = decide (5 ≤ weight byte) :=
  forall_byte (fun byte => majority byte = decide (5 ≤ weight byte)) (by decide +kernel) byte

/-- Complementing a byte complements its weight. -/
theorem weight_complement (byte : UInt8) : weight (~~~byte) = 8 - weight byte :=
  forall_byte (fun byte => weight (~~~byte) = 8 - weight byte) (by decide +kernel) byte

theorem weight_xor (left right : UInt8) : weight (left ^^^ right) = differing left right := by
  refine List.countP_congr fun place _ => ?_
  simp [getBit, UInt8.toNat_xor, Nat.testBit_xor]

/-- A byte within three places of the enrolled one decodes to the template's bit. -/
theorem decode_template {measured reference : UInt8} (near : differing measured reference ≤ 3)
    (template : Bool) :
    majority (measured ^^^ if template then ~~~reference else reference) = template := by
  have few : weight (measured ^^^ reference) ≤ 3 := by
    rw [weight_xor]
    exact near
  rw [majority_weight]
  cases template with
  | false =>
    have below : ¬ 5 ≤ weight (measured ^^^ reference) := by omega
    simp [below]
  | true =>
    have flipped : measured ^^^ ~~~reference = ~~~(measured ^^^ reference) := UInt8.xor_not
    have enough : 5 ≤ weight (measured ^^^ ~~~reference) := by
      rw [flipped, weight_complement]
      omega
    simp [enough]

/-- A measurement within three places of the reference in every byte. -/
def Near (measured reference : Bytes) : Prop :=
  List.Forall₂ (fun left right => differing left right ≤ 3) measured reference

/-- Correction undoes the errors and returns the template's bits. -/
theorem correctData_template {measured reference template : Bytes} (near : Near measured reference)
    (same : reference.length = template.length) (whole : reference.length % 8 = 0) :
    ∃ errors, correctData measured (generateEccDataTemplate reference template)
        ((generateEccDataTemplate reference template).length / 8) =
      some (packBytes (template.map highestBit), errors) := by
  have decoded : (List.zipWith (· ^^^ ·) measured (generateEccDataTemplate reference template)).map
      majority = template.map highestBit := by
    clear whole
    induction near generalizing template with
    | nil =>
      obtain rfl : template = [] := List.eq_nil_of_length_eq_zero same.symm
      rfl
    | cons close _ inductionHypothesis =>
      cases template with
      | nil => simp at same
      | cons byte rest =>
        have tail := inductionHypothesis (Nat.succ.inj same)
        simp only [generateEccDataTemplate, List.zipWith_cons_cons, List.map_cons,
          decode_template close, List.cons.injEq, true_and]
        exact tail
  have eccLen : (generateEccDataTemplate reference template).length = template.length := by
    simp [generateEccDataTemplate, same]
  have measuredLen : measured.length = template.length := near.length_eq.trans same
  obtain ⟨arr, filled, holds⟩ := fill (template.map highestBit)
    (show (template.map highestBit).length = template.length / 8 * 8 by
      rw [List.length_map]
      omega)
  refine ⟨hammingWeight ((List.zipWith (· ^^^ ·) measured
    (generateEccDataTemplate reference template)).map fun codeWord =>
      if majority codeWord then ~~~codeWord else codeWord), ?_⟩
  simp [correctData, guard, eccLen, measuredLen, decoded, filled, BitArray.copyData, holds]

/-- A response has one byte for every eight bytes of helper data. -/
theorem correctData_length {maskedData eccData response : Bytes} {errors : Nat}
    (corrected : correctData maskedData eccData (eccData.length / 8) = some (response, errors)) :
    response.length = eccData.length / 8 := by
  obtain ⟨_, passed, arr, appended, result⟩ :
      ∃ passed, guard (eccData.length / 8 = maskedData.length / 8) = some passed ∧
        ∃ arr, ((List.zipWith (· ^^^ ·) maskedData eccData).map majority).foldlM BitArray.append
            (BitArray.init (eccData.length / 8)) = some arr ∧ arr.copyData = response := by
    simp only [correctData, Option.bind_eq_bind, Option.bind_eq_some_iff] at corrected
    obtain ⟨passed, checked, arr, appended, result⟩ := corrected
    exact ⟨passed, checked, arr, appended, (Prod.mk.inj (Option.some.inj result)).1⟩
  have same : eccData.length / 8 = maskedData.length / 8 := by
    by_contra other
    simp [guard, other] at passed
  rw [← result, BitArray.copyData, packBytes_length, BitArray.append_bits appended]
  simp only [BitArray.init, List.nil_append, List.length_map, List.length_zipWith]
  omega

/-- The encoder without a template takes the reference for it. -/
theorem generateEccData_eq (reference : Bytes) :
    generateEccData reference = generateEccDataTemplate reference reference := by
  induction reference with
  | nil => rfl
  | cons byte rest inductionHypothesis =>
    rw [generateEccDataTemplate, List.zipWith_cons_cons, ← generateEccDataTemplate,
      ← inductionHypothesis]
    rfl

/-- The weight of a packed sequence of bits. -/
theorem hammingWeight_readBits (data : Bytes) : hammingWeight data = (readBits data).count true := by
  induction data with
  | nil => rfl
  | cons byte rest inductionHypothesis =>
    have first : ((List.range 8).map (getBit byte)).count true = weight byte := by
      rw [List.count, List.countP_map, weight]
      exact List.countP_congr fun place _ => by simp
    rw [readBits_cons, List.count_append, first, ← inductionHypothesis, ← hwTable_weight]
    rfl

/-- The weight of a buffer of equal bytes. -/
theorem hammingWeight_replicate (byte : UInt8) (count : Nat) :
    hammingWeight (List.replicate count byte) = count * hwTable.getD byte.toNat 0 := by
  rw [hammingWeight, List.map_replicate, List.sum_replicate_nat]

end Microgrid.Puf
