import Microgrid.Puf.Puflib

/-!
# What one provisioning run stores

The counters in NVS survive the way through bytes, so that after every wake-up they count
the samples of the run so far, and the RTC counters count the twenty measurements of the
last boot. From both arrays of counts `helperData` states what the four blobs are, and
`provisionPufHelper_run` that the code stores exactly these, `ECC_DATA` last, unless it
is stopped by the assertion of `bitArray_append`: when fewer than 64 bits are stable in
one array and any bit is stable at all.
-/

namespace Microgrid.Puflib

open CrashPrograms Puf

/-! ### Counting -/

/-- How often each bit is one in a sequence of samples. -/
def countOnes (samples : List Sram) : List Nat :=
  (List.range (pufMemorySize * 8)).map fun bitNum =>
    samples.countP fun sample => arrayGetBit sample.bytes bitNum

@[simp] theorem countOnes_length (samples : List Sram) :
    (countOnes samples).length = pufMemorySize * 8 := by
  simp [countOnes]

theorem countOnes_nil : countOnes [] = zeroFrequencies := by
  simp [countOnes, zeroFrequencies, List.map_const']

/-- Counts are bounded by the number of samples. -/
theorem countOnes_le (samples : List Sram) : ∀ freq ∈ countOnes samples, freq ≤ samples.length := by
  intro freq member
  obtain ⟨bitNum, _, rfl⟩ := List.mem_map.mp member
  exact List.countP_le_length

/-- One more sample adds its bits, as long as the counters do not wrap. -/
theorem addSample_countOnes (samples : List Sram) (sample : Sram) (few : samples.length < 65535) :
    addSample (countOnes samples) sample = countOnes (samples ++ [sample]) := by
  have bits : readBits sample.bytes =
      (List.range (pufMemorySize * 8)).map (arrayGetBit sample.bytes) := by
    rw [readBits, sample.size]
  rw [addSample, bits, countOnes, countOnes, List.zipWith_map_left, List.zipWith_map_right,
    List.zipWith_self]
  refine List.map_congr_left fun bitNum _ => ?_
  have bound : samples.countP (fun sample => arrayGetBit sample.bytes bitNum) ≤ samples.length :=
    List.countP_le_length
  have bit : (arrayGetBit sample.bytes bitNum).toNat ≤ 1 := Bool.toNat_le _
  rw [List.countP_append, Nat.mod_eq_of_lt (by omega)]
  cases set : arrayGetBit sample.bytes bitNum <;> simp [set]

/-- The RTC counters count the measurements of the boot. -/
theorem getPufBitFrequency_eq (inputs : Measurements) :
    getPufBitFrequency inputs =
      countOnes ((List.range provisioningMeasurements).map inputs.rtcSram) := by
  have counts (measurements : Nat) (few : measurements < 65536) :
      (List.range measurements).foldl
          (fun pufFreq measurement => addSample pufFreq (inputs.rtcSram measurement))
          zeroFrequencies =
        countOnes ((List.range measurements).map inputs.rtcSram) := by
    induction measurements with
    | zero => exact countOnes_nil.symm
    | succ measurements inductionHypothesis =>
      have added := addSample_countOnes ((List.range measurements).map inputs.rtcSram)
        (inputs.rtcSram measurements) (by rw [List.length_map, List.length_range]; omega)
      rw [List.range_succ, List.foldl_append, inductionHypothesis (by omega), List.map_append]
      simpa only [List.foldl_cons, List.foldl_nil, List.map_cons, List.map_nil] using added
  rw [getPufBitFrequency]
  exact counts provisioningMeasurements (by decide)

/-- Counters that fit into sixteen bits are read back from their bytes. -/
theorem frequencies_frequencyBytes (pufFreq : List Nat) (small : ∀ freq ∈ pufFreq, freq < 65536) :
    frequencies (frequencyBytes pufFreq) = pufFreq := by
  induction pufFreq with
  | nil => rfl
  | cons freq rest inductionHypothesis =>
    have bound := small freq List.mem_cons_self
    have low : (UInt8.ofNat freq).toNat = freq % 256 := UInt8.toNat_ofNat'
    have high : (UInt8.ofNat (freq / 256)).toNat = freq / 256 := by
      rw [UInt8.toNat_ofNat']
      exact Nat.mod_eq_of_lt (by omega)
    have tail := inductionHypothesis fun other member => small other (List.mem_cons_of_mem _ member)
    show ((UInt8.ofNat freq).toNat + 256 * (UInt8.ofNat (freq / 256)).toNat) ::
      frequencies (frequencyBytes rest) = freq :: rest
    rw [tail, low, high]
    congr 1
    omega

@[simp] theorem frequencyBytes_length (pufFreq : List Nat) :
    (frequencyBytes pufFreq).length = pufFreq.length * 2 := by
  induction pufFreq with
  | nil => rfl
  | cons freq rest inductionHypothesis =>
    simp only [frequencyBytes, List.flatMap_cons, List.length_append] at inductionHypothesis ⊢
    simp only [inductionHypothesis, List.length_cons, List.length_nil]
    omega

/-- The counts of a run in NVS. -/
theorem frequencies_countOnes {samples : List Sram} (few : samples.length < 65536) :
    frequencies (frequencyBytes (countOnes samples)) = countOnes samples :=
  frequencies_frequencyBytes _ fun freq member => lt_of_le_of_lt (countOnes_le samples freq member) few

/-- Zeroed counters are zero bytes. -/
theorem frequencyBytes_zero : frequencyBytes zeroFrequencies = List.replicate frequencyLen 0 := by
  refine List.eq_replicate_iff.mpr ⟨by simp [zeroFrequencies, frequencyLen], fun byte member => ?_⟩
  obtain ⟨freq, isFreq, inside⟩ := List.mem_flatMap.mp member
  obtain rfl := List.eq_of_mem_replicate isFreq
  simpa using inside

/-! ### The four blobs -/

/-- The number of selected bits: what both arrays have, in whole response bytes. -/
def helperBits (pufFreqRtc pufFreqSleep : List Nat) : Nat :=
  min (stableCount pufFreqRtc - stableCount pufFreqRtc % 64)
    (stableCount pufFreqSleep - stableCount pufFreqSleep % 64)

/-- The enrolled values of the first stable bits. -/
def maskedReference (pufFreq : List Nat) (bits : Nat) : Bytes :=
  packBytes ((selected ((pufFreq.map stableBit).zip (pufFreq.map referenceBit))).take bits)

/-- The contents of the four blobs. -/
structure HelperData where
  pufMask : Bytes
  pufSleepMask : Bytes
  eccSleepData : Bytes
  eccData : Bytes

/-- What is stored for two arrays of counts. -/
def helperData (pufFreqRtc pufFreqSleep : List Nat) : HelperData where
  pufMask := packBytes (pufFreqRtc.map stableBit)
  pufSleepMask := packBytes (pufFreqSleep.map stableBit)
  eccSleepData :=
    generateEccData (maskedReference pufFreqSleep (helperBits pufFreqRtc pufFreqSleep))
  eccData := generateEccDataTemplate
    (maskedReference pufFreqRtc (helperBits pufFreqRtc pufFreqSleep))
    (maskedReference pufFreqSleep (helperBits pufFreqRtc pufFreqSleep))

/-- The assertion of `bitArray_append` holds: there is something to select, or nothing is
selected at all. -/
def Derivable (pufFreqRtc pufFreqSleep : List Nat) : Prop :=
  0 < helperBits pufFreqRtc pufFreqSleep ∨ stableCount pufFreqRtc = 0 ∧ stableCount pufFreqSleep = 0

instance (pufFreqRtc pufFreqSleep : List Nat) : Decidable (Derivable pufFreqRtc pufFreqSleep) :=
  inferInstanceAs (Decidable (_ ∨ _))

theorem helperBits_whole (pufFreqRtc pufFreqSleep : List Nat) :
    helperBits pufFreqRtc pufFreqSleep % 64 = 0 := by
  unfold helperBits
  omega

theorem helperBits_le (pufFreqRtc pufFreqSleep : List Nat) :
    helperBits pufFreqRtc pufFreqSleep ≤ stableCount pufFreqRtc ∧
      helperBits pufFreqRtc pufFreqSleep ≤ stableCount pufFreqSleep := by
  unfold helperBits
  omega

/-- As many bits as are stable are selected. -/
theorem selected_stable (pufFreq : List Nat) :
    (selected ((pufFreq.map stableBit).zip (pufFreq.map referenceBit))).length =
      stableCount pufFreq :=
  selected_length (by simp)

theorem maskedReference_length {pufFreq : List Nat} {bits : Nat} (few : bits ≤ stableCount pufFreq) :
    (maskedReference pufFreq bits).length = bits / 8 := by
  rw [maskedReference, packBytes_length, List.length_take, selected_stable, Nat.min_eq_left few]

/-- The helper data takes all selected bits. -/
theorem helperData_length (pufFreqRtc pufFreqSleep : List Nat) :
    (helperData pufFreqRtc pufFreqSleep).eccData.length = helperBits pufFreqRtc pufFreqSleep / 8 ∧
      (helperData pufFreqRtc pufFreqSleep).eccSleepData.length =
        helperBits pufFreqRtc pufFreqSleep / 8 := by
  obtain ⟨fewRtc, fewSleep⟩ := helperBits_le pufFreqRtc pufFreqSleep
  have lengthRtc := maskedReference_length fewRtc
  have lengthSleep := maskedReference_length fewSleep
  constructor
  · rw [helperData, generateEccDataTemplate, List.length_zipWith, lengthRtc, lengthSleep,
      Nat.min_self]
  · rw [helperData, generateEccData, List.length_map, lengthSleep]

/-- Reading the bits back that were packed for a whole array of counts. -/
theorem readBits_counts {pufFreq : List Nat} (size : pufFreq.length = pufMemorySize * 8)
    (bit : Nat → Bool) : readBits (packBytes (pufFreq.map bit)) = pufFreq.map bit :=
  readBits_packBytes _ (by rw [List.length_map, size]; omega)

/-- Applying a mask to its reference gives the masked reference. With nothing to select,
the first stable bit fails the assertion. -/
theorem applyPufMask_reference {pufFreq : List Nat} (size : pufFreq.length = pufMemorySize * 8)
    {bits : Nat} (whole : bits % 64 = 0) :
    applyPufMask (packBytes (pufFreq.map stableBit)) bits (packBytes (pufFreq.map referenceBit))
        (bits / 8) =
      if 0 < bits ∨ stableCount pufFreq = 0 then some (maskedReference pufFreq bits) else none := by
  by_cases positive : 0 < bits
  · rw [if_pos (.inl positive), applyPufMask_eq _ _ positive (by omega), readBits_counts size,
      readBits_counts size]
    rfl
  · obtain rfl : bits = 0 := by omega
    have empty : selected ((pufFreq.map stableBit).zip (pufFreq.map referenceBit)) = [] ↔
        stableCount pufFreq = 0 := by
      rw [← selected_stable, List.length_eq_zero_iff]
    have loop := applyLoop_empty ((pufFreq.map stableBit).zip (pufFreq.map referenceBit)) 0
    simp only [Nat.lt_irrefl, false_or, ← empty]
    by_cases nothing : selected ((pufFreq.map stableBit).zip (pufFreq.map referenceBit)) = []
    · have copied : (BitArray.init 0).copyData = maskedReference pufFreq 0 := by
        simp [BitArray.init, BitArray.copyData, maskedReference]
      simp [applyPufMask, guard, readBits_counts size, loop, nothing, copied]
    · simp [applyPufMask, guard, readBits_counts size, loop, nothing]

/-- The masks are written first. -/
def HelperData.storeMasks (data : HelperData) (nvs : Nvs) : Nvs :=
  (nvs.put .pufMask data.pufMask).put .pufSleepMask data.pufSleepMask

/-- Then the two halves of the helper data. -/
def HelperData.storeAll (data : HelperData) (nvs : Nvs) : Nvs :=
  ((data.storeMasks nvs).put .eccSleepData data.eccSleepData).put .eccData data.eccData

/-- `provision_puf_helper` writes the four blobs, `ECC_DATA` last, or stops after the
masks. -/
theorem provisionPufHelper_run {pufFreqRtc pufFreqSleep : List Nat}
    (rtcSize : pufFreqRtc.length = pufMemorySize * 8)
    (sleepSize : pufFreqSleep.length = pufMemorySize * 8) (nvs : Nvs) (memory : Memory) :
    provisionPufHelper pufFreqRtc pufFreqSleep nvs memory =
      let data := helperData pufFreqRtc pufFreqSleep
      if Derivable pufFreqRtc pufFreqSleep then
        ⟨[nvs.put .pufMask data.pufMask, data.storeMasks nvs,
          (data.storeMasks nvs).put .eccSleepData data.eccSleepData, data.storeAll nvs], memory,
          .returned ()⟩
      else ⟨[nvs.put .pufMask data.pufMask, data.storeMasks nvs], memory, .aborted⟩ := by
  have whole := helperBits_whole pufFreqRtc pufFreqSleep
  unfold provisionPufHelper setBlob
  rw [createPufMask_eq _ rtcSize, createPufMask_eq _ sleepSize, createPufReference_eq _ rtcSize,
    createPufReference_eq _ sleepSize]
  simp only [Program.require_some_bind, Program.store_bind]
  rw [← helperBits.eq_def, applyPufMask_reference rtcSize whole,
    applyPufMask_reference sleepSize whole]
  by_cases positive : 0 < helperBits pufFreqRtc pufFreqSleep
  · have derivable : Derivable pufFreqRtc pufFreqSleep := .inl positive
    simp only [positive, true_or, if_pos derivable, if_true, Program.require_some_bind,
      Program.store_bind, Program.store_apply, Result.prepend_mk]
    rfl
  by_cases rtcEmpty : stableCount pufFreqRtc = 0
  · by_cases sleepEmpty : stableCount pufFreqSleep = 0
    · have derivable : Derivable pufFreqRtc pufFreqSleep := .inr ⟨rtcEmpty, sleepEmpty⟩
      simp only [rtcEmpty, sleepEmpty, or_true, if_pos derivable, if_true,
        Program.require_some_bind, Program.store_bind, Program.store_apply, Result.prepend_mk]
      rfl
    · have underivable : ¬ Derivable pufFreqRtc pufFreqSleep := fun derivable =>
        derivable.elim positive fun empty => sleepEmpty empty.2
      simp only [rtcEmpty, sleepEmpty, positive, or_true, or_self, if_neg underivable, if_true,
        if_false, Program.require_some_bind, Program.require_none_bind, Result.prepend_mk]
      rfl
  · have underivable : ¬ Derivable pufFreqRtc pufFreqSleep := fun derivable =>
      derivable.elim positive fun empty => rtcEmpty empty.1
    simp only [rtcEmpty, positive, or_self, if_neg underivable, if_false,
      Program.require_none_bind, Result.prepend_mk]
    rfl

/-! ### The steps of a run -/

/-- The counters of the samples taken so far are in NVS. -/
def Counted (samples : List Sram) (nvs : Nvs) : Prop :=
  nvs .pufFrequency = some (frequencyBytes (countOnes samples))

/-- One sample more. -/
def count (samples : List Sram) (nvs : Nvs) : Nvs :=
  nvs.put .pufFrequency (frequencyBytes (countOnes samples))

theorem counted_count (samples : List Sram) (nvs : Nvs) : Counted samples (count samples nvs) :=
  Function.update_self Key.pufFrequency _ nvs

theorem frequencyBytes_countOnes_length (samples : List Sram) :
    (frequencyBytes (countOnes samples)).length = frequencyLen := by
  rw [frequencyBytes_length, countOnes_length, frequencyLen]

/-- The first step of a run zeroes the counters and sleeps. -/
theorem provisionPufCalculate_first (inputs : Measurements) (nvs : Nvs) (memory : Memory)
    (first : memory.iterationProgress = 0) :
    provisionPufCalculate inputs nvs memory = ⟨[count [] nvs], memory, .slept⟩ := by
  have helper : pufsleepBitFrequencyHelper inputs true false nvs memory =
      ⟨[count [] nvs], memory, .slept⟩ := by
    rw [count, countOnes_nil]
    rfl
  rw [provisionPufCalculate, Program.inspect_bind, first]
  refine Program.bind_slept ?_ _
  exact Program.bind_slept helper _

/-- A wake-up adds its sample; it sleeps again unless it is the last one. -/
theorem pufsleepBitFrequencyHelper_sample (inputs : Measurements) {nvs : Nvs}
    {samples : List Sram} (counted : Counted samples nvs) (few : samples.length < 65535)
    (lastIteration : Bool) (memory : Memory) :
    pufsleepBitFrequencyHelper inputs false lastIteration nvs memory =
      ⟨[count (samples ++ [inputs.pufBuffer]) nvs], memory,
        if lastIteration then .returned () else .slept⟩ := by
  have read : frequencies (frequencyBytes (countOnes samples)) = countOnes samples :=
    frequencies_countOnes (by omega)
  have added := addSample_countOnes samples inputs.pufBuffer few
  unfold pufsleepBitFrequencyHelper
  simp only [Bool.false_eq_true, if_false]
  rw [getBlob_bind counted, assert_bind (frequencyBytes_countOnes_length samples), read, added]
  cases lastIteration <;> rfl

/-- Every wake-up before the last one adds its sample and sleeps again. -/
theorem provisionPufCalculate_sample (inputs : Measurements) {nvs : Nvs} {samples : List Sram}
    (counted : Counted samples nvs) (few : samples.length < 65535) (memory : Memory)
    (later : 0 < memory.iterationProgress)
    (early : memory.iterationProgress < provisioningMeasurements) :
    provisionPufCalculate inputs nvs memory =
      ⟨[count (samples ++ [inputs.pufBuffer]) nvs], memory, .slept⟩ := by
  have notFirst : (memory.iterationProgress == 0) = false := beq_false_of_ne (by omega)
  have notLast : (memory.iterationProgress == provisioningMeasurements) = false :=
    beq_false_of_ne (by omega)
  have helper := pufsleepBitFrequencyHelper_sample inputs counted few false memory
  rw [provisionPufCalculate, Program.inspect_bind, getPufsleepBitFrequency,
    if_pos (Nat.le_of_lt early), notFirst, notLast]
  refine Program.bind_slept ?_ _
  exact Program.bind_slept helper _

/-- The durable operations of the last boot of a run: the counters, the four blobs, and the
counters overwritten and erased. -/
def lastStores (samples : List Sram) (data : HelperData) (nvs : Nvs) : List Nvs :=
  let counted := count samples nvs
  let zeroed := (data.storeAll counted).put .pufFrequency (List.replicate frequencyLen 0)
  [counted, counted.put .pufMask data.pufMask, data.storeMasks counted,
    (data.storeMasks counted).put .eccSleepData data.eccSleepData, data.storeAll counted,
    zeroed, zeroed.erase .pufFrequency]

/-- The last wake-up adds its sample, stores the four blobs and erases the counters, unless
the assertion fails. -/
theorem provisionPufCalculate_last (inputs : Measurements) {nvs : Nvs} {samples : List Sram}
    (counted : Counted samples nvs) (few : samples.length < 65535) (memory : Memory)
    (last : memory.iterationProgress = provisioningMeasurements) :
    provisionPufCalculate inputs nvs memory =
      let pufFreqSleep := countOnes (samples ++ [inputs.pufBuffer])
      let stores := lastStores (samples ++ [inputs.pufBuffer])
        (helperData (getPufBitFrequency inputs) pufFreqSleep) nvs
      if Derivable (getPufBitFrequency inputs) pufFreqSleep then ⟨stores, memory, .returned ()⟩
      else ⟨stores.take 3, memory, .aborted⟩ := by
  have helper : pufsleepBitFrequencyHelper inputs false true nvs memory =
      ⟨[count (samples ++ [inputs.pufBuffer]) nvs], memory, .returned ()⟩ :=
    pufsleepBitFrequencyHelper_sample inputs counted few true memory
  have read : frequencies (frequencyBytes (countOnes (samples ++ [inputs.pufBuffer]))) =
      countOnes (samples ++ [inputs.pufBuffer]) :=
    frequencies_countOnes (by rw [List.length_append, List.length_singleton]; omega)
  have sleepFreq : getPufsleepBitFrequency inputs memory.iterationProgress nvs memory =
      ⟨[count (samples ++ [inputs.pufBuffer]) nvs], memory,
        .returned (countOnes (samples ++ [inputs.pufBuffer]))⟩ := by
    rw [getPufsleepBitFrequency, if_pos (Nat.le_of_eq last), last]
    apply (Program.bind_returned helper _ rfl).trans
    rw [List.getLastD_cons, List.getLastD_nil]
    dsimp only
    rw [getBlob_bind (counted_count _ nvs), assert_bind (frequencyBytes_countOnes_length _), read]
    rfl
  have rtcSize : (getPufBitFrequency inputs).length = pufMemorySize * 8 := by
    rw [getPufBitFrequency_eq, countOnes_length]
  have stored := provisionPufHelper_run rtcSize
    (countOnes_length (samples ++ [inputs.pufBuffer]))
    (count (samples ++ [inputs.pufBuffer]) nvs) memory
  rw [provisionPufCalculate, Program.inspect_bind, Program.bind_returned sleepFreq _ rfl,
    List.getLastD_cons, List.getLastD_nil]
  by_cases derivable : Derivable (getPufBitFrequency inputs)
      (countOnes (samples ++ [inputs.pufBuffer]))
  · rw [if_pos derivable] at stored
    rw [if_pos derivable, Program.bind_returned stored _ rfl]
    rfl
  · rw [if_neg derivable] at stored
    rw [if_neg derivable, Program.bind_aborted stored]
    rfl

end Microgrid.Puflib
