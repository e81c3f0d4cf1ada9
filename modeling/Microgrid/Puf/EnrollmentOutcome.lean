import Microgrid.Puf.EnrollmentRuns

/-!
# Which measurements an enrollment completes with

Twenty samples are taken on both paths. A bit is selected if all samples of its path agree
on it, and the number of selected bits is rounded down to a multiple of 64. With fewer than
64 on one path nothing is left, and the loop of `apply_puf_mask`, which appends before it
looks at its counter, fails on the first bit that is selected all the same.
-/

namespace Microgrid.AppMain

open CrashPrograms Puf Puflib RotIdentity

/-- All samples have the same bit there. -/
def agrees (samples : List Sram) (bitNum : Nat) : Bool :=
  (samples.all fun sample => arrayGetBit sample.bytes bitNum) ||
    samples.all fun sample => !arrayGetBit sample.bytes bitNum

/-- On how many bits they agree. -/
def agreeing (samples : List Sram) : Nat := (List.range (pufMemorySize * 8)).countP (agrees samples)

/-- The measurements of the RTC path, all of them taken on one boot. -/
def rtcSamples (last : Boot) : List Sram :=
  (List.range provisioningMeasurements).map last.inputs.rtcSram

/-- Either path has 64 bits that its samples agree on, or neither has any. -/
def Enough (sleepSamples rtcSamples : List Sram) : Prop :=
  64 ≤ agreeing sleepSamples ∧ 64 ≤ agreeing rtcSamples ∨
    agreeing sleepSamples = 0 ∧ agreeing rtcSamples = 0

/-- The enrollment step of a boot after these ones. -/
def enrollmentStep (history : List Boot) (boot : Boot) : Result Nvs Memory Bool :=
  rotIdentityRunEnrollmentStep boot.inputs (after history).store (node.memoryAt boot (after history))

/-- The steps of an enrollment fail no assertion, and the last one gets to the end of
`provision_puf_helper` and reports that the node is enrolled. -/
structure Completes (earlier : List Boot) (start : Boot) (wakes : List Boot) (last : Boot) :
    Prop where
  asserted : ∀ taken boot rest, start :: wakes ++ [last] = taken ++ boot :: rest →
    (enrollmentStep (earlier ++ taken) boot).outcome ≠ .aborted
  enrolled : ∃ stores memory,
    enrollmentStep (earlier ++ start :: wakes) last = ⟨stores, memory, .returned true⟩ ∧
    Holds (runData wakes last) (stores.getLastD (after (earlier ++ start :: wakes)).store) ∧
    isEnrolled (stores.getLastD (after (earlier ++ start :: wakes)).store) = true

/-- A count of twenty samples is stable if and only if they agree. -/
theorem stableBit_agrees {samples : List Sram} (twenty : samples.length = provisioningMeasurements)
    (bitNum : Nat) :
    stableBit (samples.countP fun sample => arrayGetBit sample.bytes bitNum) =
      agrees samples bitNum := by
  have bound : samples.countP (fun sample => arrayGetBit sample.bytes bitNum) ≤ 20 :=
    List.countP_le_length.trans twenty.le
  have ones : 20 ≤ samples.countP (fun sample => arrayGetBit sample.bytes bitNum) ↔
      ∀ sample ∈ samples, arrayGetBit sample.bytes bitNum = true := by
    rw [← List.countP_eq_length, twenty, provisioningMeasurements]
    omega
  have zeros : samples.countP (fun sample => arrayGetBit sample.bytes bitNum) ≤ 0 ↔
      ∀ sample ∈ samples, arrayGetBit sample.bytes bitNum = false := by
    rw [Nat.le_zero, List.countP_eq_zero]
    simp
  rw [Bool.eq_iff_iff]
  simp [stableBit, agrees, maskUpperBound, maskLowerBound, ones, zeros]

theorem stableCount_countOnes {samples : List Sram}
    (twenty : samples.length = provisioningMeasurements) :
    stableCount (countOnes samples) = agreeing samples := by
  rw [stableCount, countOnes, List.map_map, List.count, List.countP_map, agreeing]
  refine List.countP_congr fun bitNum _ => ?_
  simp [stableBit_agrees twenty]

/-- What the assertion asks for, in terms of the samples. -/
theorem runDerivable_iff {wakes : List Boot} (whole : wakes.length + 1 = provisioningMeasurements)
    (last : Boot) :
    RunDerivable wakes last ↔ Enough (samples (wakes ++ [last])) (rtcSamples last) := by
  have sleepTwenty : (samples (wakes ++ [last])).length = provisioningMeasurements := by
    rw [samples_length, List.length_append, List.length_singleton, whole]
  have rtcTwenty : (rtcSamples last).length = provisioningMeasurements := by
    rw [rtcSamples, List.length_map, List.length_range]
  rw [RunDerivable, Derivable, helperBits, getPufBitFrequency_eq, ← rtcSamples,
    stableCount_countOnes sleepTwenty, stableCount_countOnes rtcTwenty, Enough]
  omega

/-- Erasing the counters leaves the blobs. -/
theorem holds_lastStores (samples : List Sram) (data : HelperData) (nvs : Nvs) :
    Holds data ((lastStores samples data nvs).getLastD nvs) := by
  refine (holds_storeAll data (count samples nvs)).congr fun key other => ?_
  simp [lastStores, Nvs.erase, Nvs.put, Function.update_of_ne other]

section Undisturbed

variable {earlier : List Boot} (fresh : isEnrolled (after earlier).store = false) {start : Boot}
  (cold : node.woken start (after earlier) = none) (powered : start.powerLoss = none)
  {wakes : List Boot} (undisturbed : ∀ boot ∈ wakes, Undisturbed boot)
  (whole : wakes.length + 1 = provisioningMeasurements)

include fresh cold powered undisturbed whole

/-- Every step before the last one ends in deep sleep. -/
theorem steps_sleep {taken rest : List Boot} {boot : Boot}
    (split : start :: wakes = taken ++ boot :: rest) :
    (enrollmentStep (earlier ++ taken) boot).outcome = .slept := by
  cases taken with
  | nil =>
    obtain ⟨rfl, -⟩ := List.cons.inj split
    have idle : (node.memoryAt start (after earlier)).state = .none := by
      rw [Firmware.memoryAt, cold]
      rfl
    rw [List.append_nil, enrollmentStep, step_begins start.inputs fresh idle]
  | cons first taken =>
    obtain ⟨rfl, isWakes⟩ := List.cons.inj split
    obtain rfl : wakes = taken ++ boot :: rest := isWakes
    rw [List.length_append, List.length_cons] at whole
    obtain ⟨memory, sampling⟩ := run_progresses fresh cold powered
      (fun other member => undisturbed other (List.mem_append_left _ member))
      (show taken.length < provisioningMeasurements by omega)
    have warm := (undisturbed boot (List.mem_append_right _ List.mem_cons_self)).1
    have started : node.memoryAt boot (after (earlier ++ start :: taken)) = memory.wake :=
      node.memoryAt_woken (woken_warm warm sampling.asleep)
    rw [enrollmentStep, started, step_samples boot sampling.counted
      (show memory.wake.state = _ from sampling.state) sampling.progress (by omega)]

/-- The last step. -/
theorem last_step {last : Boot} (warm : last.coldStart = false) : ∃ memory,
    enrollmentStep (earlier ++ start :: wakes) last =
      let stores := lastStores (samples (wakes ++ [last])) (runData wakes last)
        (after (earlier ++ start :: wakes)).store
      if RunDerivable wakes last then ⟨stores, memory, .returned true⟩
      else ⟨stores.take 3, memory, .aborted⟩ := by
  obtain ⟨memory, sampling⟩ := run_progresses fresh cold powered undisturbed
    (show wakes.length < provisioningMeasurements by omega)
  have started : node.memoryAt last (after (earlier ++ start :: wakes)) = memory.wake :=
    node.memoryAt_woken (woken_warm warm sampling.asleep)
  rw [enrollmentStep, started]
  exact ⟨_, step_completes last sampling.counted
    (show memory.wake.state = _ from sampling.state) sampling.progress whole⟩

/-- A last step that aborts leaves the node without enrollment, to begin anew at its next boot. -/
theorem starts_over {last : Boot} (warm : Undisturbed last)
    (scarce : ¬Enough (samples (wakes ++ [last])) (rtcSamples last)) :
    isEnrolled (after (earlier ++ start :: wakes ++ [last])).store = false ∧
      (after (earlier ++ start :: wakes ++ [last])).asleep = none := by
  obtain ⟨slept, sampling⟩ := run_progresses fresh cold powered undisturbed
    (show wakes.length < provisioningMeasurements by omega)
  have stillFresh : isEnrolled (after (earlier ++ start :: wakes)).store = false := by
    cases (consistent_after _).dormant slept sampling.asleep with
    | sampling _ _ fresh => exact fresh
    | retrying _ state =>
      rw [Retrying, sampling.state] at state
      cases state
  have unwritten := (consistent_after _).unwritten stillFresh
  obtain ⟨memory, step⟩ := last_step fresh cold powered undisturbed whole warm.1
  rw [if_neg (mt (runDerivable_iff whole last).mp scarce)] at step
  rw [after_boot, node.cycle_powered (show node.powerLoss last = none from warm.2),
    result_aborted step]
  refine ⟨isEnrolled_unwritten ?_, rfl⟩
  exact unwritten

end Undisturbed

/-- An enrollment without power loss completes if and only if there are enough bits that the
samples agree on. -/
theorem enrollment_completes_iff {earlier : List Boot}
    (fresh : isEnrolled (after earlier).store = false) {start : Boot}
    (cold : node.woken start (after earlier) = none) (powered : start.powerLoss = none)
    {wakes : List Boot} (undisturbed : ∀ boot ∈ wakes, Undisturbed boot)
    (whole : wakes.length + 1 = provisioningMeasurements) {last : Boot} (warm : Undisturbed last) :
    Completes earlier start wakes last ↔
      Enough (samples (wakes ++ [last])) (rtcSamples last) := by
  rw [← runDerivable_iff whole]
  obtain ⟨memory, step⟩ := last_step fresh cold powered undisturbed whole warm.1
  by_cases derivable : RunDerivable wakes last
  · rw [if_pos derivable] at step
    refine iff_of_true ⟨?_, ?_⟩ derivable
    · intro taken boot rest split
      rcases List.eq_nil_or_concat rest with rfl | ⟨others, final, rfl⟩
      · obtain ⟨rfl, same⟩ := List.append_inj' (split.trans rfl) rfl
        obtain rfl := List.singleton_inj.mp same
        rw [step]
        exact nofun
      · have shorter : start :: wakes ++ [last] = (taken ++ boot :: others) ++ [final] := by
          rw [split]
          simp
        obtain ⟨before, -⟩ := List.append_inj' shorter rfl
        rw [steps_sleep fresh cold powered undisturbed whole before]
        exact nofun
    · have holds := holds_lastStores (samples (wakes ++ [last])) (runData wakes last)
        (after (earlier ++ start :: wakes)).store
      exact ⟨_, memory, step, holds, holds.isEnrolled⟩
  · rw [if_neg derivable] at step
    refine iff_of_false ?_ derivable
    rintro ⟨-, stores, after, returned, -⟩
    rw [step] at returned
    cases (Result.mk.inj returned).2.2

/-- Samples that are all the same agree everywhere. -/
theorem agreeing_replicate (count : Nat) (sample : Sram) :
    agreeing (List.replicate count sample) = pufMemorySize * 8 := by
  have everywhere : ∀ bitNum ∈ List.range (pufMemorySize * 8),
      agrees (List.replicate count sample) bitNum = true := by
    intro bitNum _
    cases bit : arrayGetBit sample.bytes bitNum <;> cases count <;> simp [agrees, bit]
  rw [agreeing, List.countP_eq_length.mpr everywhere, List.length_range]

theorem onesRtcSamples : rtcSamples onesBoot =
    List.replicate provisioningMeasurements onesBoot.inputs.pufBuffer := by
  rw [rtcSamples, List.eq_replicate_iff]
  refine ⟨by rw [List.length_map, List.length_range], fun sample member => ?_⟩
  obtain ⟨measurement, -, rfl⟩ := List.mem_map.mp member
  rfl

/-- An enrollment of ones completes. -/
theorem enrollment_completes_ones : Completes [] onesBoot onesWakes onesBoot := by
  have sleepSamples : samples (onesWakes ++ [onesBoot]) =
      List.replicate 20 onesBoot.inputs.pufBuffer := by
    rw [samples, onesWakes, ← List.replicate_succ', List.map_replicate]
  refine (enrollment_completes_iff rfl rfl rfl onesWakes_undisturbed rfl ⟨rfl, rfl⟩).mpr (.inl ?_)
  rw [sleepSamples, onesRtcSamples, agreeing_replicate, agreeing_replicate]
  decide

/-- A measurement of equal bytes. -/
def uniformSram (byte : UInt8) : Sram :=
  ⟨List.replicate pufMemorySize byte, List.length_replicate⟩

/-- A boot that wakes up to an SRAM of zeros. -/
def zerosBoot : Boot :=
  { onesBoot with inputs := { onesBoot.inputs with pufBuffer := uniformSram 0 } }

/-- The bits of a buffer of equal bytes. -/
theorem arrayGetBit_replicate (byte : UInt8) {len bitNum : Nat} (inside : bitNum < len * 8) :
    arrayGetBit (List.replicate len byte) bitNum = getBit byte (bitNum % 8) := by
  rw [arrayGetBit, List.getD_replicate _ (by omega)]

/-- The last of the samples has no bit in common with the others. -/
theorem agreeing_zerosBoot : agreeing (samples (onesWakes ++ [zerosBoot])) = 0 := by
  rw [agreeing, List.countP_eq_zero]
  intro bitNum member
  have inside := List.mem_range.mp member
  have ones : ∀ place < 8, getBit 0xFF place = true := by decide
  have one : arrayGetBit onesBoot.inputs.pufBuffer.bytes bitNum = true := by
    rw [show onesBoot.inputs.pufBuffer.bytes = List.replicate pufMemorySize 0xFF from rfl,
      arrayGetBit_replicate _ inside]
    exact ones _ (Nat.mod_lt _ (by decide))
  have zero : arrayGetBit zerosBoot.inputs.pufBuffer.bytes bitNum = false := by
    rw [show zerosBoot.inputs.pufBuffer.bytes = List.replicate pufMemorySize 0 from rfl,
      arrayGetBit_replicate _ inside]
    exact Nat.zero_testBit _
  simp [agrees, samples, onesWakes, one, zero]

/-- There a bit of the RTC path is selected, and there is no room for it: the assertion fails. -/
theorem enrollment_aborts :
    (enrollmentStep (onesBoot :: onesWakes) zerosBoot).outcome = .aborted ∧
      ¬Completes [] onesBoot onesWakes zerosBoot := by
  have rtc : rtcSamples zerosBoot =
      List.replicate provisioningMeasurements onesBoot.inputs.pufBuffer := onesRtcSamples
  have underivable : ¬RunDerivable onesWakes zerosBoot := by
    rw [runDerivable_iff rfl, Enough, agreeing_zerosBoot, rtc, agreeing_replicate]
    decide
  obtain ⟨memory, step⟩ :=
    @last_step [] rfl onesBoot rfl rfl onesWakes onesWakes_undisturbed rfl zerosBoot rfl
  rw [if_neg underivable] at step
  have aborted : (enrollmentStep (onesBoot :: onesWakes) zerosBoot).outcome = .aborted := by
    rw [← List.nil_append (onesBoot :: onesWakes), step]
  refine ⟨aborted, fun completes => ?_⟩
  exact completes.asserted (onesBoot :: onesWakes) zerosBoot [] rfl aborted

end Microgrid.AppMain
