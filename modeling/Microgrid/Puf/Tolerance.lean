import Microgrid.Foundation.RepetitionCode
import Microgrid.Puf.EnrollmentOutcome
import Microgrid.Puf.StableIdentity

/-!
# How much noise a reconstruction stands

A byte of selected bits is a word of a repetition code with helper data, and decodes to one
from five ones on. A response bit that is one therefore stands three errors and a zero four,
whichever of the twenty samples of the enrollment the errors are counted from: the selected
bits came up the same in all of them. One error more in one byte and the response is another.
-/

namespace Microgrid.Puf

open RepetitionCode

/-! ### Bytes as words -/

/-- The bits of a byte, lowest first. -/
def bitsOf (byte : UInt8) : List Bool := (List.range 8).map (getBit byte)

theorem ones_bitsOf (byte : UInt8) : ones (bitsOf byte) = weight byte := by
  rw [ones, bitsOf, List.count, List.countP_map, weight]
  exact List.countP_congr fun place _ => by simp

theorem bitsOf_xor (left right : UInt8) :
    bitsOf (left ^^^ right) = add (bitsOf left) (bitsOf right) := by
  rw [add, bitsOf, bitsOf, bitsOf, List.zipWith_map_left, List.zipWith_map_right, List.zipWith_self]
  refine List.map_congr_left fun place _ => ?_
  rw [getBit, UInt8.toNat_xor, Nat.testBit_xor]
  rfl

/-- Helper data of one byte. -/
theorem bitsOf_offset (bit : Bool) (byte : UInt8) :
    bitsOf (if bit then ~~~byte else byte) = offset bit (bitsOf byte) := by
  cases bit with
  | false => exact (offset_false _).symm
  | true =>
    exact forall_byte (fun byte => bitsOf (~~~byte) = offset true (bitsOf byte))
      (by decide +kernel) byte

theorem majority_decode (byte : UInt8) : majority byte = decode 5 (bitsOf byte) := by
  rw [majority_weight, decode, ones_bitsOf]

theorem corrected_bitsOf (byte : UInt8) :
    hwTable.getD (if majority byte then ~~~byte else byte).toNat 0 = corrected 5 (bitsOf byte) := by
  rw [hwTable_weight, ← ones_bitsOf, bitsOf_offset, majority_decode, corrected]

theorem differing_bitsOf (left right : UInt8) :
    differing left right = distance (bitsOf left) (bitsOf right) := by
  rw [← weight_xor, ← ones_bitsOf, bitsOf_xor, distance]

/-- Every byte of a measurement has at most three errors where the template asks for a one, and
at most four where it asks for a zero. -/
def Within (measured reference template : Bytes) : Prop :=
  List.Forall₂ (fun pair byte => differing pair.1 pair.2 ≤ if highestBit byte then 3 else 4)
    (measured.zip reference) template

/-- The number of bits in which two buffers differ. -/
def differences (left right : Bytes) : ℕ := (List.zipWith differing left right).sum

theorem within_tolerated (measured reference template : Bytes) :
    Within measured reference template ↔
      Tolerated 5 8 (measured.map bitsOf) (reference.map bitsOf) (template.map highestBit) := by
  rw [Within, Tolerated, List.zip_map, List.forall₂_map_left_iff, List.forall₂_map_right_iff]
  refine iff_of_eq (congrArg (fun near => List.Forall₂ near _ template) ?_)
  funext pair byte
  rw [differing_bitsOf]
  cases highestBit byte <;> rfl

/-- What `correct_data` looks up, as words. -/
theorem codeWords_received (measured reference template : Bytes) :
    (List.zipWith (· ^^^ ·) measured (generateEccDataTemplate reference template)).map bitsOf =
      received (measured.map bitsOf) (reference.map bitsOf) (template.map highestBit) := by
  induction template generalizing measured reference with
  | nil => simp [generateEccDataTemplate, received]
  | cons byte template inductionHypothesis =>
    cases reference with
    | nil => simp [generateEccDataTemplate, received]
    | cons first reference =>
      cases measured with
      | nil => simp [received]
      | cons read measured =>
        have rest := inductionHypothesis measured reference
        rw [generateEccDataTemplate, received] at rest ⊢
        simp only [List.zipWith_cons_cons, List.map_cons, rest, bitsOf_xor, bitsOf_offset]

/-- Packing whole bytes loses nothing. -/
theorem packBytes_inj {left right : List Bool} (leftWhole : left.length % 8 = 0)
    (rightWhole : right.length % 8 = 0) : packBytes left = packBytes right ↔ left = right := by
  constructor
  · intro packed
    rw [← readBits_packBytes left leftWhole, packed, readBits_packBytes right rightWhole]
  · exact congrArg packBytes

/-- `correct_data` gives the template's bits exactly if the measurement is within what the bits
stand, and then counts all errors. -/
theorem correctData_within {measured reference template : Bytes}
    (same : reference.length = template.length) (sameMeasured : measured.length = template.length)
    (whole : template.length % 8 = 0) :
    ∃ response errors, correctData measured (generateEccDataTemplate reference template)
        ((generateEccDataTemplate reference template).length / 8) = some (response, errors) ∧
      (response = packBytes (template.map highestBit) ↔ Within measured reference template) ∧
      (Within measured reference template → errors = differences measured reference) := by
  set words := received (measured.map bitsOf) (reference.map bitsOf) (template.map highestBit)
    with wordsNamed
  have eccLen : (generateEccDataTemplate reference template).length = template.length := by
    rw [generateEccDataTemplate, List.length_zipWith, same, Nat.min_self]
  have codeWords := codeWords_received measured reference template
  rw [← wordsNamed] at codeWords
  have decoded : (List.zipWith (· ^^^ ·) measured (generateEccDataTemplate reference template)).map
      majority = words.map (decode 5) := by
    rw [← codeWords, List.map_map]
    exact List.map_congr_left fun byte _ => majority_decode byte
  have counted : hammingWeight ((List.zipWith (· ^^^ ·) measured
      (generateEccDataTemplate reference template)).map fun codeWord =>
        if majority codeWord then ~~~codeWord else codeWord) = (words.map (corrected 5)).sum := by
    rw [hammingWeight, ← codeWords, List.map_map, List.map_map]
    exact congrArg List.sum (List.map_congr_left fun byte _ => corrected_bitsOf byte)
  have wordsLen : (words.map (decode 5)).length = template.length := by
    rw [← decoded, List.length_map, List.length_zipWith, eccLen, sameMeasured, Nat.min_self]
  have bytes : ∀ {buffer : Bytes}, ∀ word ∈ buffer.map bitsOf, word.length = 8 := by
    intro buffer word member
    obtain ⟨byte, -, rfl⟩ := List.mem_map.mp member
    rw [bitsOf, List.length_map, List.length_range]
  have asMany : (reference.map bitsOf).length = (template.map highestBit).length := by
    rw [List.length_map, List.length_map, same]
  have asManyMeasured : (measured.map bitsOf).length = (template.map highestBit).length := by
    rw [List.length_map, List.length_map, sameMeasured]
  have exactly := @decode_received 5 8 (by decide) (by decide) _ _ _ bytes bytes asMany asManyMeasured
  obtain ⟨arr, filled, holds⟩ := fill (words.map (decode 5))
    (show (words.map (decode 5)).length = template.length / 8 * 8 by rw [wordsLen]; omega)
  refine ⟨packBytes (words.map (decode 5)), (words.map (corrected 5)).sum, ?_, ?_, ?_⟩
  · rw [← decoded, List.map_zipWith] at filled
    rw [List.map_zipWith] at counted
    simp [correctData, guard, eccLen, sameMeasured, filled, BitArray.copyData, holds, counted]
  · rw [packBytes_inj (by rw [wordsLen, whole]) (by rw [List.length_map, whole]), exactly,
      within_tolerated]
  · intro within
    rw [corrected_received asMany asManyMeasured
      (exactly.mpr ((within_tolerated _ _ _).mp within)), errors, differences,
      List.zipWith_map_left, List.zipWith_map_right]
    congr 2
    funext left right
    exact (differing_bitsOf left right).symm

end Microgrid.Puf

namespace Microgrid.AppMain

open CrashPrograms Puf Puflib RotIdentity StableIdentity

/-! ### Samples of the enrollment -/

/-- Selecting looks at the marked bits only. -/
theorem selected_congr {places : List ℕ} {marked bit other : ℕ → Bool}
    (same : ∀ place ∈ places, marked place = true → bit place = other place) :
    selected ((places.map marked).zip (places.map bit)) =
      selected ((places.map marked).zip (places.map other)) := by
  induction places with
  | nil => rfl
  | cons place places inductionHypothesis =>
    have rest := inductionHypothesis fun later member => same later (List.mem_cons_of_mem _ member)
    rw [selected, selected] at rest ⊢
    simp only [List.map_cons, List.zip_cons_cons]
    cases mark : marked place with
    | false => exact rest
    | true =>
      rw [List.filter_cons_of_pos rfl, List.filter_cons_of_pos rfl, List.map_cons, List.map_cons,
        rest, same place List.mem_cons_self mark]

/-- A stable bit came up in every sample as it is in the reference. -/
theorem reference_agrees {samples : List Sram} (twenty : samples.length = provisioningMeasurements)
    {sample : Sram} (member : sample ∈ samples) {bitNum : Nat}
    (stable : stableBit (samples.countP fun sample => arrayGetBit sample.bytes bitNum) = true) :
    arrayGetBit sample.bytes bitNum =
      referenceBit (samples.countP fun sample => arrayGetBit sample.bytes bitNum) := by
  rw [stableBit_agrees twenty, agrees, Bool.or_eq_true, List.all_eq_true, List.all_eq_true] at stable
  rcases stable with ones | zeros
  · have every := List.countP_eq_length.mpr ones
    rw [ones sample member, every, twenty]
    rfl
  · have none : samples.countP (fun sample => arrayGetBit sample.bytes bitNum) = 0 :=
      List.countP_eq_zero.mpr fun other among => by simpa using zeros other among
    have zero := zeros sample member
    rw [Bool.not_eq_true'] at zero
    rw [zero, none]
    rfl

/-- Masking any of the samples gives the masked reference. -/
theorem maskedPuf_sample {samples : List Sram} (twenty : samples.length = provisioningMeasurements)
    {sample : Sram} (member : sample ∈ samples) (bits : ℕ) :
    maskedPuf (countOnes samples) bits sample = maskedReference (countOnes samples) bits := by
  have read : readBits sample.bytes =
      (List.range (pufMemorySize * 8)).map (arrayGetBit sample.bytes) := by
    rw [readBits, sample.size]
  have agree (bitNum : ℕ) (stable : (stableBit ∘ fun bitNum =>
      samples.countP fun sample => arrayGetBit sample.bytes bitNum) bitNum = true) :
      arrayGetBit sample.bytes bitNum = (referenceBit ∘ fun bitNum =>
        samples.countP fun sample => arrayGetBit sample.bytes bitNum) bitNum := by
    rw [Function.comp_apply] at stable ⊢
    exact reference_agrees twenty member stable
  rw [maskedPuf, maskedReference, countOnes, List.map_map, List.map_map, read,
    selected_congr fun bitNum _ => agree bitNum]

/-! ### The two paths -/

/-- For every measurement a path comes to a response. It is the enrolled one exactly if the
selected bits differ from those of the sample within what the template's bits stand, and then
all bits that differ are counted. -/
def Tolerates (maskKey eccKey : Key) (nvs : Nvs) (pufFreq : List Nat) (bits : Nat) (sample : Sram)
    (template : Bytes) : Prop :=
  ∀ sram memory, ∃ eccData response errors, nvs eccKey = some eccData ∧
    correctData (maskedPuf pufFreq bits sram) eccData (eccData.length / 8) =
      some (response, errors) ∧
    reconstruct maskKey eccKey sram nvs memory = ⟨[], memory.respond response, .returned ()⟩ ∧
    (response = packBytes (template.map highestBit) ↔
      Within (maskedPuf pufFreq bits sram) (maskedPuf pufFreq bits sample) template) ∧
    (Within (maskedPuf pufFreq bits sram) (maskedPuf pufFreq bits sample) template →
      errors = differences (maskedPuf pufFreq bits sram) (maskedPuf pufFreq bits sample))

/-- A path whose helper data was made from its samples and a template. -/
theorem fitting_tolerates {maskKey eccKey : Key} {nvs : Nvs} {samples : List Sram} {bits : Nat}
    {template : Bytes} (twenty : samples.length = provisioningMeasurements)
    (fitting : Fitting maskKey eccKey nvs (countOnes samples) bits
      (generateEccDataTemplate (maskedReference (countOnes samples) bits) template))
    (same : template.length = bits / 8) {sample : Sram} (member : sample ∈ samples) :
    Tolerates maskKey eccKey nvs (countOnes samples) bits sample template := by
  intro sram memory
  have whole := fitting.whole
  obtain ⟨response, errors, corrected, -, ran⟩ := reconstruct_run fitting sram memory
  have measured : (maskedPuf (countOnes samples) bits sram).length = template.length := by
    rw [(fitting.masked sram).2, fitting.eccLength, same]
  have reference : (maskedReference (countOnes samples) bits).length = template.length := by
    rw [maskedReference_length fitting.few, same]
  obtain ⟨response', errors', expected, exactly, counted⟩ := correctData_within reference measured
    (by rw [same]; omega)
  obtain ⟨rfl, rfl⟩ := Prod.mk.inj (Option.some.inj (corrected.symm.trans expected))
  rw [← maskedPuf_sample twenty member bits] at exactly counted
  exact ⟨_, response, errors, fitting.eccData, corrected, ran, exactly, counted⟩

theorem rtcSamples_length (last : Boot) : (rtcSamples last).length = provisioningMeasurements := by
  rw [rtcSamples, List.length_map, List.length_range]

theorem samples_whole {wakes : List Boot} (whole : wakes.length + 1 = provisioningMeasurements)
    (last : Boot) : (samples (wakes ++ [last])).length = provisioningMeasurements := by
  rw [samples_length, List.length_append]
  exact whole

/-- A completed run has one wake-up for every sample, the last one included. -/
theorem CompletedRun.wakes_length {earlier wakes : List Boot} {start last : Boot}
    (completed : CompletedRun earlier start wakes last) :
    wakes.length + 1 = provisioningMeasurements := by
  have whole := completed.whole
  rwa [List.length_append] at whole

/-- The samples of a completed run. -/
theorem CompletedRun.recoverable {earlier wakes : List Boot} {start last : Boot} {nvs : Nvs}
    (completed : CompletedRun earlier start wakes last) (holds : Holds (runData wakes last) nvs) :
    Recoverable nvs (countOnes (rtcSamples last)) (countOnes (samples (wakes ++ [last]))) := by
  have rtc := getPufBitFrequency_eq last.inputs
  refine ⟨countOnes_length _, countOnes_length _, ?_, ?_⟩
  · rw [rtcSamples, ← rtc]
    exact completed.derivable
  · rw [rtcSamples, ← rtc]
    exact holds

/-- The node keeps the helper data of one run of twenty samples on each path, and either path
tolerates noise as counted from any of its samples. -/
def ReconstructsWithin (history : List Boot) : Prop :=
  ∃ earlier start wakes last later, history = earlier ++ start :: wakes ++ last :: later ∧
    CompletedRun earlier start wakes last ∧
    ∀ rtcSample ∈ rtcSamples last, ∀ sleepSample ∈ samples (wakes ++ [last]),
      let rtc := countOnes (rtcSamples last)
      let sleep := countOnes (samples (wakes ++ [last]))
      let bits := helperBits rtc sleep
      let template := maskedPuf sleep bits sleepSample
      Tolerates .pufMask .eccData (after history).store rtc bits rtcSample template ∧
      Tolerates .pufSleepMask .eccSleepData (after history).store sleep bits sleepSample template

/-- Every enrolled node, whatever boots it went through, reconstructs from any measurement on
either path the response of its one enrollment exactly if no byte of selected bits has more
errors than the response bit stands, counted from any of the samples. -/
theorem reconstruction_tolerates {history : List Boot}
    (enrolled : isEnrolled (after history).store = true) : ReconstructsWithin history := by
  have present : (after history).store .eccData ≠ none := by
    intro unwritten
    rw [isEnrolled_unwritten unwritten] at enrolled
    cases enrolled
  obtain ⟨earlier, start, wakes, last, later, boots, completed, holds⟩ :=
    (consistent_after history).written present
  refine ⟨earlier, start, wakes, last, later, boots, completed, ?_⟩
  intro rtcSample rtcMember sleepSample sleepMember rtc sleep bits template
  have recoverable := completed.recoverable holds
  have twentyRtc := rtcSamples_length last
  have twentySleep := samples_whole completed.wakes_length last
  have templated : template = maskedReference sleep bits :=
    maskedPuf_sample twentySleep sleepMember bits
  have same : template.length = bits / 8 := by
    rw [templated]
    exact maskedReference_length (helperBits_le rtc sleep).2
  constructor
  · apply fitting_tolerates twentyRtc _ same rtcMember
    rw [templated]
    exact recoverable.fittingRtc
  · apply fitting_tolerates twentySleep _ same sleepMember
    rw [templated, ← generateEccData_eq]
    exact recoverable.fittingSleep

/-- The node that was enrolled with ones does so. -/
theorem ones_tolerates : ReconstructsWithin (onesBoot :: onesWakes ++ [onesBoot]) :=
  reconstruction_tolerates ones_enrolled

end Microgrid.AppMain
