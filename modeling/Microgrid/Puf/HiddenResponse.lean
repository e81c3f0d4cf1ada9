import Microgrid.Puf.BitBuffers
import Microgrid.Puf.CounterErasure
import Microgrid.Puf.Tolerance

/-!
# What NVS tells about the response

The helper data of a byte of selected bits is the byte or its complement, whichever has the
template's highest bit taken out. Complementing the selected bits of any groups, on both paths
alike, is therefore a change of the measurements that changes the response and no blob of
helper data. It maps every enrollment to one that leaves the same store, as long as the
counters are not in it; with the counters, the response can be computed.
-/

namespace Microgrid.Puf

/-! ### Complemented groups -/

/-- A byte, complemented or not. -/
def flipped (flip : Bool) (byte : UInt8) : UInt8 := if flip then ~~~byte else byte

/-- Every byte with its own flip. -/
def flipBytes (flips : Nat → Bool) (bytes : Bytes) : Bytes :=
  bytes.mapIdx fun index byte => flipped (flips index) byte

@[simp] theorem flipBytes_length (flips : Nat → Bool) (bytes : Bytes) :
    (flipBytes flips bytes).length = bytes.length := List.length_mapIdx

theorem highestBit_flipped (flip : Bool) (byte : UInt8) :
    highestBit (flipped flip byte) = xor flip (highestBit byte) := by
  cases flip with
  | false => exact (Bool.false_xor _).symm
  | true =>
    exact forall_byte (fun byte => highestBit (~~~byte) = xor true (highestBit byte))
      (by decide +kernel) byte

/-- Complementing the byte and the template's bit leaves the helper data. -/
theorem offset_flipped (flip bit : Bool) (byte : UInt8) :
    (if xor flip bit then ~~~flipped flip byte else flipped flip byte) =
      if bit then ~~~byte else byte := by
  cases flip <;> cases bit <;> simp [flipped]

/-- Helper data does not show which groups are complemented. -/
theorem generateEccDataTemplate_flip (flips : Nat → Bool) (reference template : Bytes) :
    generateEccDataTemplate (flipBytes flips reference) (flipBytes flips template) =
      generateEccDataTemplate reference template := by
  refine List.ext_getElem (by simp [generateEccDataTemplate]) fun index inFlipped inPlain => ?_
  simp only [generateEccDataTemplate, flipBytes, List.getElem_zipWith, List.getElem_mapIdx,
    highestBit_flipped, offset_flipped]

/-- The highest bits show it. -/
theorem highestBits_flip (flips : Nat → Bool) (bytes : Bytes) :
    (flipBytes flips bytes).map highestBit =
      (bytes.map highestBit).mapIdx fun index bit => xor (flips index) bit := by
  refine List.ext_getElem (by simp) fun index inFlipped inPlain => ?_
  simp only [flipBytes, List.getElem_map, List.getElem_mapIdx, highestBit_flipped]

theorem byteOf_flipped (flip : Bool) (bit : Nat → Bool) :
    byteOf (fun place => xor flip (bit place)) = flipped flip (byteOf bit) := by
  refine byte_ext fun place inside => ?_
  rw [getBit_byteOf _ inside]
  cases flip with
  | false => rw [Bool.false_xor, flipped, if_neg Bool.false_ne_true, getBit_byteOf _ inside]
  | true =>
    have complement : ∀ byte : UInt8, ∀ place < 8, getBit (~~~byte) place = !getBit byte place :=
      forall_byte _ (by decide +kernel)
    rw [flipped, if_pos rfl, complement _ place inside, getBit_byteOf _ inside, Bool.true_xor]

/-- Flipping the bits of whole groups flips the bytes they are packed into. -/
theorem packBytes_flip (flips : Nat → Bool) (bits : List Bool) :
    packBytes (bits.mapIdx fun index bit => xor (flips (index / 8)) bit) =
      flipBytes flips (packBytes bits) := by
  refine List.ext_getElem (by simp) fun index inFlipped inPlain => ?_
  have room : index < bits.length / 8 := by simpa using inPlain
  simp only [packBytes, flipBytes, List.getElem_map, List.getElem_mapIdx, List.getElem_range]
  rw [← byteOf_flipped]
  refine byte_ext fun place inside => ?_
  have here : index * 8 + place < bits.length := by omega
  have group : (index * 8 + place) / 8 = index := by omega
  rw [getBit_byteOf _ inside, getBit_byteOf _ inside, List.getD_eq_getElem?_getD,
    List.getD_eq_getElem?_getD, List.getElem?_mapIdx, List.getElem?_eq_getElem here,
    Option.map_some, Option.getD_some, Option.getD_some, group]

/-- Unpacking loses nothing either. -/
theorem packBytes_readBits (data : Bytes) : packBytes (readBits data) = data := by
  refine List.ext_getElem (by simp) fun index inPacked inData => byte_ext fun place inside => ?_
  have here : index * 8 + place < data.length * 8 := by omega
  have byte : (index * 8 + place) / 8 = index := by omega
  have bit : (index * 8 + place) % 8 = place := by omega
  simp only [packBytes, List.getElem_map, List.getElem_range]
  rw [getBit_byteOf _ inside, readBits, List.getD_eq_getElem?_getD, List.getElem?_map,
    List.getElem?_range here, Option.map_some, Option.getD_some, arrayGetBit, byte, bit,
    List.getD_eq_getElem?_getD, List.getElem?_eq_getElem inData, Option.getD_some]

/-! ### Complemented measurements -/

/-- How many places before one are marked. -/
def rank (marked : Nat → Bool) (place : Nat) : Nat := (List.range place).countP marked

theorem selected_append (left right : List (Bool × Bool)) :
    selected (left ++ right) = selected left ++ selected right := by
  rw [selected, List.filter_append, List.map_append, ← selected, ← selected]

/-- A marked bit is selected at its rank. -/
theorem selected_flip (marked bit : Nat → Bool) (flips : Nat → Bool) (places : Nat) :
    selected (((List.range places).map marked).zip
        ((List.range places).map fun place => xor (flips (rank marked place)) (bit place))) =
      (selected (((List.range places).map marked).zip ((List.range places).map bit))).mapIdx
        fun index bit => xor (flips index) bit := by
  induction places with
  | zero => rfl
  | succ places inductionHypothesis =>
    have size : (selected (((List.range places).map marked).zip
        ((List.range places).map bit))).length = rank marked places := by
      rw [selected_length (by simp), rank, List.count, List.countP_map]
      exact List.countP_congr fun place _ => by simp
    rw [List.range_succ]
    simp only [List.map_append, List.map_cons, List.map_nil]
    rw [List.zip_append (by simp), List.zip_append (by simp), selected_append, selected_append,
      inductionHypothesis, List.mapIdx_append, size]
    congr 1
    cases mark : marked places with
    | false => simp [selected]
    | true => simp [selected]

end Microgrid.Puf

namespace Microgrid.AppMain

open CrashPrograms Puf Puflib RotIdentity StableIdentity

/-- A measurement with some of its bits complemented. -/
def flipSram (pattern : Nat → Bool) (sample : Sram) : Sram where
  bytes := packBytes ((List.range (pufMemorySize * 8)).map fun bitNum =>
    xor (pattern bitNum) (arrayGetBit sample.bytes bitNum))
  size := by simp

theorem arrayGetBit_flip (pattern : Nat → Bool) (sample : Sram) {bitNum : Nat}
    (inside : bitNum < pufMemorySize * 8) :
    arrayGetBit (flipSram pattern sample).bytes bitNum =
      xor (pattern bitNum) (arrayGetBit sample.bytes bitNum) := by
  rw [flipSram, arrayGetBit_packBytes _ (by simpa using inside), List.getD_eq_getElem?_getD,
    List.getElem?_map, List.getElem?_range inside, Option.map_some, Option.getD_some]

/-- Complement what the samples agree on, in the groups that are to be flipped. -/
def groupPattern (samples : List Sram) (flips : Nat → Bool) (bitNum : Nat) : Bool :=
  agrees samples bitNum && flips (rank (agrees samples) bitNum / 8)

/-- The samples with these groups complemented. -/
def flipSamples (flips : Nat → Bool) (samples : List Sram) : List Sram :=
  samples.map (flipSram (groupPattern samples flips))

/-- They agree where the samples do. -/
theorem agrees_flip (flips : Nat → Bool) (samples : List Sram) {bitNum : Nat}
    (inside : bitNum < pufMemorySize * 8) :
    agrees (flipSamples flips samples) bitNum = agrees samples bitNum := by
  rw [agrees, agrees, flipSamples, List.all_map, List.all_map]
  simp only [Function.comp_def, arrayGetBit_flip _ _ inside]
  cases groupPattern samples flips bitNum with
  | false => simp only [Bool.false_xor]
  | true => simp only [Bool.true_xor, Bool.not_not, Bool.or_comm]

section Groups

variable {samples : List Sram} (twenty : samples.length = provisioningMeasurements)
  (flips : Nat → Bool)

include twenty

/-- The same bits are stable. -/
theorem stable_flip : (countOnes (flipSamples flips samples)).map stableBit =
    (countOnes samples).map stableBit := by
  rw [countOnes, countOnes, List.map_map, List.map_map]
  refine List.map_congr_left fun bitNum member => ?_
  have twentyFlipped : (flipSamples flips samples).length = provisioningMeasurements :=
    List.length_map _ |>.trans twenty
  simp only [Function.comp_apply]
  rw [stableBit_agrees twenty, stableBit_agrees twentyFlipped,
    agrees_flip flips samples (List.mem_range.mp member)]

/-- A stable bit has its enrolled value complemented with its group. -/
theorem reference_flip {bitNum : Nat} (inside : bitNum < pufMemorySize * 8)
    (stable : agrees samples bitNum = true) :
    referenceBit ((flipSamples flips samples).countP fun sample => arrayGetBit sample.bytes bitNum) =
      xor (flips (rank (agrees samples) bitNum / 8))
        (referenceBit (samples.countP fun sample => arrayGetBit sample.bytes bitNum)) := by
  obtain ⟨sample, member⟩ : ∃ sample, sample ∈ samples :=
    List.exists_mem_of_length_pos (by rw [twenty]; decide)
  have twentyFlipped : (flipSamples flips samples).length = provisioningMeasurements :=
    List.length_map _ |>.trans twenty
  have plain := reference_agrees twenty member (by rw [stableBit_agrees twenty]; exact stable)
  have complemented := reference_agrees twentyFlipped (List.mem_map_of_mem member)
    (by rw [stableBit_agrees twentyFlipped, agrees_flip flips samples inside]; exact stable)
  rw [← complemented, arrayGetBit_flip _ _ inside, plain, groupPattern, stable, Bool.true_and]

/-- The masked reference is flipped byte by byte. -/
theorem maskedReference_flip (bits : Nat) :
    maskedReference (countOnes (flipSamples flips samples)) bits =
      flipBytes flips (maskedReference (countOnes samples) bits) := by
  have marks : (countOnes samples).map stableBit =
      (List.range (pufMemorySize * 8)).map (agrees samples) := by
    rw [countOnes, List.map_map]
    exact List.map_congr_left fun bitNum _ => stableBit_agrees twenty bitNum
  have values (samples : List Sram) : (countOnes samples).map referenceBit =
      (List.range (pufMemorySize * 8)).map fun bitNum =>
        referenceBit (samples.countP fun sample => arrayGetBit sample.bytes bitNum) := by
    rw [countOnes, List.map_map]
    rfl
  have chosen := selected_congr (fun bitNum member => reference_flip twenty flips
    (List.mem_range.mp member))
  rw [maskedReference, stable_flip twenty flips, marks, values, chosen,
    selected_flip (agrees samples) _ fun index => flips (index / 8), maskedReference, marks,
    values, ← packBytes_flip]
  refine congrArg packBytes (List.ext_getElem (by simp) fun index inFlipped inPlain => ?_)
  simp only [List.getElem_take, List.getElem_mapIdx]

end Groups

/-! ### Blobs and response -/

section Blobs

variable {rtc sleep : List Sram} (twentyRtc : rtc.length = provisioningMeasurements)
  (twentySleep : sleep.length = provisioningMeasurements)

include twentyRtc twentySleep

theorem helperBits_flip (flips : Nat → Bool) :
    helperBits (countOnes (flipSamples flips rtc)) (countOnes (flipSamples flips sleep)) =
      helperBits (countOnes rtc) (countOnes sleep) := by
  rw [helperBits, stableCount, stableCount, stable_flip twentyRtc, stable_flip twentySleep]
  rfl

/-- The flipped samples of both paths make the same blobs. -/
theorem helperData_flip (flips : Nat → Bool) :
    helperData (countOnes (flipSamples flips rtc)) (countOnes (flipSamples flips sleep)) =
      helperData (countOnes rtc) (countOnes sleep) := by
  rw [helperData, helperBits_flip twentyRtc twentySleep, stable_flip twentyRtc,
    stable_flip twentySleep, maskedReference_flip twentyRtc, maskedReference_flip twentySleep,
    generateEccData_eq, generateEccDataTemplate_flip, generateEccDataTemplate_flip,
    ← generateEccData_eq]
  rfl

theorem derivable_flip (flips : Nat → Bool) :
    Derivable (countOnes (flipSamples flips rtc)) (countOnes (flipSamples flips sleep)) ↔
      Derivable (countOnes rtc) (countOnes sleep) := by
  rw [Derivable, helperBits_flip twentyRtc twentySleep, stableCount, stableCount,
    stable_flip twentyRtc, stable_flip twentySleep]
  rfl

/-- They have any response of the length that is asked for. -/
theorem response_flip {other : Bytes}
    (same : other.length = (enrolledResponse (countOnes rtc) (countOnes sleep)).length) :
    ∃ flips, enrolledResponse (countOnes (flipSamples flips rtc))
      (countOnes (flipSamples flips sleep)) = other := by
  set bits := (maskedReference (countOnes sleep)
    (helperBits (countOnes rtc) (countOnes sleep))).map highestBit with bitsNamed
  have whole : (readBits other).length = bits.length := by
    have few := (helperBits_le (countOnes rtc) (countOnes sleep)).2
    have sized : bits.length = helperBits (countOnes rtc) (countOnes sleep) / 8 := by
      rw [bitsNamed, List.length_map, maskedReference_length few]
    have multiple := helperBits_whole (countOnes rtc) (countOnes sleep)
    rw [enrolledResponse, ← bitsNamed, packBytes_length] at same
    rw [readBits_length, same]
    omega
  refine ⟨fun index => xor ((readBits other).getD index false) (bits.getD index false), ?_⟩
  rw [enrolledResponse, helperBits_flip twentyRtc twentySleep, maskedReference_flip twentySleep,
    highestBits_flip, ← bitsNamed]
  rw [show bits.mapIdx _ = readBits other from
    List.ext_getElem (by rw [List.length_mapIdx, whole]) fun index inBits inOther => ?_,
    packBytes_readBits]
  have inside : index < bits.length := whole ▸ inOther
  rw [List.getElem_mapIdx, List.getD_eq_getElem?_getD, List.getD_eq_getElem?_getD,
    List.getElem?_eq_getElem inOther, List.getElem?_eq_getElem inside, Option.getD_some,
    Option.getD_some, Bool.xor_assoc, Bool.xor_self, Bool.xor_false]

end Blobs

/-! ### The enrollment of a node -/

/-- The response that the run by which the node was enrolled gave it. -/
def EnrolledWith (history : List Boot) (response : Bytes) : Prop :=
  ∃ earlier start wakes last later, history = earlier ++ start :: wakes ++ last :: later ∧
    CompletedRun earlier start wakes last ∧
    isEnrolled (after (earlier ++ start :: wakes ++ [last])).store = true ∧
    response = enrolledResponse (countOnes (rtcSamples last)) (countOnes (samples (wakes ++ [last])))

/-- Every enrolled node has one. -/
theorem enrolled_with {history : List Boot} (enrolled : isEnrolled (after history).store = true) :
    ∃ response, EnrolledWith history response := by
  induction history using List.reverseRecOn with
  | nil => cases enrolled
  | append_singleton history boot inductionHypothesis =>
    by_cases already : isEnrolled (after history).store = true
    · obtain ⟨response, earlier, start, wakes, last, later, boots, completed, ended, same⟩ :=
        inductionHypothesis already
      refine ⟨response, earlier, start, wakes, last, later ++ [boot], ?_, completed, ended, same⟩
      rw [boots, List.append_assoc, List.cons_append]
    have consistent := consistent_after history
    have silent (unwritten : (node.cycle (after history) boot).store .eccData = none) : False := by
      rw [after_boot, isEnrolled_unwritten unwritten] at enrolled
      cases enrolled
    cases boot_cases history boot consistent.dormant with
    | begins fresh _ ran =>
      exact (silent (cycle_unwritten (consistent.unwritten fresh)
        (by rw [ran]; exact count_unwritten (consistent.unwritten fresh)))).elim
    | samples _ _ _ _ fresh _ ran =>
      exact (silent (cycle_unwritten (consistent.unwritten fresh)
        (by rw [ran]; exact count_unwritten (consistent.unwritten fresh)))).elim
    | stops _ _ _ _ fresh _ _ ran =>
      exact (silent (cycle_unwritten (consistent.unwritten fresh)
        (by rw [ran]; exact lastStores_unwritten (consistent.unwritten fresh)))).elim
    | @completes earlier start wakes boots run _ _ _ whole derivable step =>
      refine ⟨_, earlier, start, wakes, boot, [], by rw [boots], ⟨run, ?_, derivable, ?_⟩, ?_, rfl⟩
      · rw [List.length_append]
        exact whole
      · rw [← boots]
        exact (result_returned step).1
      · rw [← boots]
        exact enrolled
    | rests enrolledThen => exact absurd enrolledThen already

/-- What is in the store that a last boot leaves enrolled: the blobs, and the counters, zeros in
their place, or nothing. -/
theorem lastStores_left {samples : List Sram} {data : HelperData} {nvs : Nvs}
    (unwritten : nvs .eccData = none) {cut : Nat}
    (enrolled : isEnrolled (((lastStores samples data nvs).take cut).getLastD nvs) = true) :
    let left := ((lastStores samples data nvs).take cut).getLastD nvs
    Holds data left ∧ (Counted samples left ∨
      left .pufFrequency = some (List.replicate frequencyLen 0) ∨ left .pufFrequency = none) := by
  have early {store : Nvs} (already : isEnrolled store = true) (absent : store .eccData = none) :
      False := by
    rw [isEnrolled_unwritten absent] at already
    cases already
  have stored := holds_storeAll data (count samples nvs)
  rcases cut with _ | _ | _ | _ | _ | _ | _ | cut
  · exact (early enrolled unwritten).elim
  · exact (early enrolled unwritten).elim
  · exact (early enrolled unwritten).elim
  · exact (early enrolled unwritten).elim
  · exact (early enrolled unwritten).elim
  · exact ⟨stored, .inl (counted_count samples nvs)⟩
  · exact ⟨stored.congr fun key other => Function.update_of_ne other _ _, .inr (.inl rfl)⟩
  · rw [List.take_of_length_le (show (lastStores samples data nvs).length ≤ cut + 7 from
      Nat.le_add_left 7 cut)]
    exact ⟨holds_lastStores samples data nvs, .inr (.inr rfl)⟩

/-- The wake-up for the last sample of a run. -/
theorem ProvisioningRun.last {earlier wakes : List Boot} {start last : Boot}
    (run : ProvisioningRun earlier start (wakes ++ [last])) :
    WakesForSample (after (earlier ++ start :: wakes)) last wakes.length := by
  generalize boots : wakes ++ [last] = all at run
  cases run with
  | begun => exact absurd boots (List.append_ne_nil_of_right_ne_nil _ (List.cons_ne_nil _ _))
  | woken _ sample =>
    obtain ⟨rfl, same⟩ := List.append_inj' boots rfl
    obtain rfl := List.singleton_inj.mp same
    exact sample

/-- So are the blobs and the counters of an enrolled node those of its run. -/
theorem CompletedRun.left {earlier wakes : List Boot} {start last : Boot}
    (completed : CompletedRun earlier start wakes last)
    (enrolled : isEnrolled (after (earlier ++ start :: wakes ++ [last])).store = true) :
    let left := (after (earlier ++ start :: wakes ++ [last])).store
    Holds (runData wakes last) left ∧ (Counted (samples (wakes ++ [last])) left ∨
      left .pufFrequency = some (List.replicate frequencyLen 0) ∨ left .pufFrequency = none) := by
  have consistent := consistent_after (earlier ++ start :: wakes)
  have awake := completed.run.last.state
  have fresh : isEnrolled (after (earlier ++ start :: wakes)).store = false := by
    cases boot_cases _ last consistent.dormant with
    | begins fresh | samples _ _ _ _ fresh | completes _ _ _ _ fresh | stops _ _ _ _ fresh =>
      exact fresh
    | rests _ why => exact absurd awake (idle_started why)
  have unwritten := consistent.unwritten fresh
  rw [after_boot] at enrolled ⊢
  cases lost : last.powerLoss with
  | none =>
    rw [node.cycle_powered lost, Result.store, completed.stores] at enrolled ⊢
    exact @lastStores_left _ _ _ unwritten 7 enrolled
  | some count =>
    rw [node.cycle_powerLoss lost, Result.storeAfter, completed.stores] at enrolled ⊢
    exact lastStores_left unwritten enrolled

/-! ### The same store -/

section Fresh

variable {start : Boot} (powered : start.powerLoss = none) {wakes : List Boot}
  (undisturbed : ∀ boot ∈ wakes, Undisturbed boot)

theorem blank_cold (start : Boot) : node.woken start (after []) = none := by
  rw [Firmware.woken]
  split <;> rfl

include powered undisturbed

/-- The first boots of a node make up a run. -/
theorem fresh_progresses (few : wakes.length ≤ provisioningMeasurements) :
    ProvisioningRun [] start wakes := by
  induction wakes using List.reverseRecOn with
  | nil =>
    refine .begun rfl ?_
    rw [Firmware.memoryAt, blank_cold start]
    rfl
  | append_singleton wakes boot inductionHypothesis =>
    rw [List.length_append, List.length_singleton] at few
    have before : ∀ other ∈ wakes, Undisturbed other :=
      fun other member => undisturbed other (List.mem_append_left _ member)
    obtain ⟨memory, sampling⟩ := @run_progresses [] rfl start (blank_cold start) powered wakes before
      few
    have warm := (undisturbed boot (List.mem_append_right _ List.mem_cons_self)).1
    exact (inductionHypothesis before (by omega)).woken
      ⟨memory.wake, woken_warm warm sampling.asleep, sampling.state, sampling.progress⟩

/-- With the last boot the run is completed, and the store is what the boot has power for. -/
theorem fresh_completes (whole : wakes.length + 1 = provisioningMeasurements) {last : Boot}
    (warm : last.coldStart = false) (derivable : RunDerivable wakes last) :
    CompletedRun [] start wakes last ∧
      (after (start :: wakes ++ [last])).store =
        ((lastStores (samples (wakes ++ [last])) (runData wakes last)
          (after (start :: wakes)).store).take (last.powerLoss.getD 7)).getLastD
            (after (start :: wakes)).store := by
  obtain ⟨sample, _, memory, step⟩ := @run_completes [] rfl start (blank_cold start) powered wakes
    undisturbed whole last warm derivable
  have stores := (result_returned step).1
  refine ⟨⟨(fresh_progresses powered undisturbed (by omega)).woken sample, ?_, derivable, stores⟩,
    ?_⟩
  · rw [List.length_append]
    exact whole
  rw [after_boot]
  cases lost : last.powerLoss with
  | none =>
    rw [node.cycle_powered lost, Result.store]
    exact congrArg (fun stores => List.getLastD stores _) stores
  | some count =>
    rw [node.cycle_powerLoss lost, Result.storeAfter]
    exact congrArg (fun stores => List.getLastD (stores.take count) _) stores

end Fresh

/-- Stores with the same blobs and the same counters are the same. -/
theorem Holds.ext {data : HelperData} {left right : Nvs} (holds : Holds data left)
    (holdsToo : Holds data right) (counters : left .pufFrequency = right .pufFrequency) :
    left = right := by
  funext key
  cases key with
  | eccData => exact holds.eccData.trans holdsToo.eccData.symm
  | pufMask => exact holds.pufMask.trans holdsToo.pufMask.symm
  | eccSleepData => exact holds.eccSleepData.trans holdsToo.eccSleepData.symm
  | pufSleepMask => exact holds.pufSleepMask.trans holdsToo.pufSleepMask.symm
  | pufFrequency => exact counters

/-- A boot of a twin, which measures with the groups of a run complemented. -/
def twinBoot (flips : Nat → Bool) (rtc sleep : List Sram) (lost : Option Nat) (boot : Boot) :
    Boot where
  powerLoss := lost
  inputs :=
    { pufBuffer := flipSram (groupPattern sleep flips) boot.inputs.pufBuffer
      rtcSram := fun measurement =>
        flipSram (groupPattern rtc flips) (boot.inputs.rtcSram measurement)
      responseSram := boot.inputs.responseSram }

/-- Nothing is shown of the response: every other one has a history of boots that leads to the
same store. -/
def Hidden (history : List Boot) (response : Bytes) : Prop :=
  ∀ other : Bytes, other.length = response.length →
    ∃ twin, (after twin).store = (after history).store ∧ EnrolledWith twin other

/-- What the counters tell of it. -/
def responseFromCounters (nvs : Nvs) : Option Bytes := do
  let pufFreq ← nvs .pufFrequency
  let eccData ← nvs .eccData
  return packBytes ((maskedReference (frequencies pufFreq) (eccData.length * 8)).map highestBit)

section Twin

variable {wakes : List Boot} {last : Boot} (flips : Nat → Bool)

/-- What a twin's run measures. -/
theorem samples_twin (rtc : List Sram) (lost : Option Nat) :
    samples (wakes.map (twinBoot flips rtc (samples (wakes ++ [last])) none) ++
        [twinBoot flips rtc (samples (wakes ++ [last])) lost last]) =
      flipSamples flips (samples (wakes ++ [last])) := by
  rw [samples_concat, flipSamples]
  conv_rhs => rw [samples_concat wakes last, List.map_append, samples, List.map_map]
  rw [samples, List.map_map]
  simp only [samples_concat]
  rfl

theorem rtcSamples_twin (sleep : List Sram) (lost : Option Nat) :
    rtcSamples (twinBoot flips (rtcSamples last) sleep lost last) =
      flipSamples flips (rtcSamples last) := by
  rw [flipSamples]
  conv_rhs => rw [rtcSamples, List.map_map]
  rfl

/-- What it derives. -/
theorem runData_twin (whole : wakes.length + 1 = provisioningMeasurements)
    (derivable : RunDerivable wakes last) (lost : Option Nat) :
    let twin := twinBoot flips (rtcSamples last) (samples (wakes ++ [last]))
    runData (wakes.map (twin none)) (twin lost last) = runData wakes last ∧
      RunDerivable (wakes.map (twin none)) (twin lost last) := by
  intro twin
  have twentyRtc := rtcSamples_length last
  have twentySleep := samples_whole whole last
  have sleep : samples (wakes.map (twin none) ++ [twin lost last]) =
      flipSamples flips (samples (wakes ++ [last])) := samples_twin flips _ lost
  have rtc : getPufBitFrequency (twin lost last).inputs =
      countOnes (flipSamples flips (rtcSamples last)) := by
    rw [getPufBitFrequency_eq, ← rtcSamples, rtcSamples_twin]
  constructor
  · rw [runData, sleep, rtc, helperData_flip twentyRtc twentySleep, runData,
      getPufBitFrequency_eq, rtcSamples]
  · rw [RunDerivable, getPufBitFrequency_eq] at derivable
    rw [RunDerivable, sleep, rtc, derivable_flip twentyRtc twentySleep]
    exact derivable

/-- A twin of a completed run leaves its blobs and no counters, or zeros in their place. -/
theorem twin_enrolled (whole : wakes.length + 1 = provisioningMeasurements)
    (derivable : RunDerivable wakes last) {counters : Option Bytes}
    (gone : counters = some (List.replicate frequencyLen 0) ∨ counters = none) :
    ∃ twin, Holds (runData wakes last) (after twin).store ∧
      (after twin).store .pufFrequency = counters ∧
      EnrolledWith twin (enrolledResponse (countOnes (flipSamples flips (rtcSamples last)))
        (countOnes (flipSamples flips (samples (wakes ++ [last]))))) := by
  -- Power fails after the counters are overwritten, or not at all.
  obtain ⟨lost, leaves⟩ : ∃ lost : Option Nat, ∀ samples data nvs,
      let left := ((lastStores samples data nvs).take (lost.getD 7)).getLastD nvs
      Holds data left ∧ left .pufFrequency = counters := by
    rcases gone with rfl | rfl
    · refine ⟨some 6, fun samples data nvs => ⟨?_, rfl⟩⟩
      exact (holds_storeAll data (count samples nvs)).congr fun key other =>
        Function.update_of_ne other _ _
    · exact ⟨none, fun samples data nvs => ⟨holds_lastStores samples data nvs, rfl⟩⟩
  obtain ⟨sameData, derivable⟩ := runData_twin flips whole derivable lost
  set twin := twinBoot flips (rtcSamples last) (samples (wakes ++ [last])) with twinNamed
  have undisturbed : ∀ boot ∈ wakes.map (twin none), Undisturbed boot := by
    intro boot member
    obtain ⟨_, _, rfl⟩ := List.mem_map.mp member
    exact ⟨rfl, rfl⟩
  obtain ⟨completed, stored⟩ := @fresh_completes (twin none last) rfl _ undisturbed
    (by rw [List.length_map]; exact whole) (twin lost last) rfl derivable
  obtain ⟨holds, left⟩ := leaves (samples (wakes.map (twin none) ++ [twin lost last]))
    (runData (wakes.map (twin none)) (twin lost last))
    (after (twin none last :: wakes.map (twin none))).store
  rw [show (twin lost last).powerLoss = lost from rfl] at stored
  rw [← stored] at holds left
  refine ⟨_, sameData ▸ holds, left, [], twin none last, wakes.map (twin none), twin lost last, [],
    rfl, completed, holds.isEnrolled, ?_⟩
  rw [twinNamed, samples_twin, rtcSamples_twin]

end Twin

/-- The store of an enrolled node is what its run left. -/
theorem EnrolledWith.left {history : List Boot} {response : Bytes}
    (enrolled : EnrolledWith history response) :
    ∃ wakes last, wakes.length + 1 = provisioningMeasurements ∧ RunDerivable wakes last ∧
      response = enrolledResponse (countOnes (rtcSamples last))
        (countOnes (samples (wakes ++ [last]))) ∧
      Holds (runData wakes last) (after history).store ∧
      (Counted (samples (wakes ++ [last])) (after history).store ∨
        (after history).store .pufFrequency = some (List.replicate frequencyLen 0) ∨
        (after history).store .pufFrequency = none) := by
  obtain ⟨earlier, start, wakes, last, later, boots, completed, ended, same⟩ := enrolled
  have rested : (after history).store = (after (earlier ++ start :: wakes ++ [last])).store := by
    rw [boots, List.append_cons, store_rests ended]
  obtain ⟨holds, counters⟩ := completed.left ended
  rw [rested]
  exact ⟨wakes, last, completed.wakes_length, completed.derivable, same, holds, counters⟩

/-- Without the counters, a twin of the run can have any response. -/
theorem EnrolledWith.hidden {history : List Boot} {response : Bytes}
    (enrolled : EnrolledWith history response) (erased : Erased (after history).store) :
    Hidden history response := by
  obtain ⟨wakes, last, whole, derivable, rfl, holds, counters⟩ := enrolled.left
  have gone : (after history).store .pufFrequency = some (List.replicate frequencyLen 0) ∨
      (after history).store .pufFrequency = none := by
    rcases counters with counted | gone
    · have zero := (erased_counted (samples_few whole) counted).mp erased
      rw [Counted, zero, frequencyBytes_zero] at counted
      exact .inl counted
    · exact gone
  intro other same
  obtain ⟨flips, reached⟩ := response_flip (rtcSamples_length last) (samples_whole whole last) same
  obtain ⟨twin, twinHolds, twinCounters, twinEnrolled⟩ := twin_enrolled flips whole derivable gone
  rw [reached] at twinEnrolled
  exact ⟨twin, twinHolds.ext holds twinCounters, twinEnrolled⟩

/-- With them, the response is computed. -/
theorem EnrolledWith.exposed {history : List Boot} {response : Bytes}
    (enrolled : EnrolledWith history response) (kept : ¬ Erased (after history).store) :
    responseFromCounters (after history).store = some response := by
  obtain ⟨wakes, last, whole, _, rfl, holds, counted | zeros | absent⟩ := enrolled.left
  · have rtc : getPufBitFrequency last.inputs = countOnes (rtcSamples last) :=
      getPufBitFrequency_eq last.inputs
    have bits : (runData wakes last).eccData.length * 8 =
        helperBits (countOnes (rtcSamples last)) (countOnes (samples (wakes ++ [last]))) := by
      have multiple := helperBits_whole (countOnes (rtcSamples last))
        (countOnes (samples (wakes ++ [last])))
      rw [runData, rtc, (helperData_length _ _).1]
      omega
    rw [responseFromCounters, counted, holds.eccData]
    simp only [Option.bind_eq_bind, Option.bind_some, Option.pure_def]
    rw [bits, frequencies_countOnes (samples_few whole), enrolledResponse]
  · refine absurd (fun blob present byte member => ?_) kept
    rw [zeros] at present
    rw [← Option.some.inj present] at member
    exact List.eq_of_mem_replicate member
  · refine absurd (fun blob present => ?_) kept
    rw [absent] at present
    cases present

/-- What the store of an enrolled node tells of its response, whatever boots it went through:
without the counters every response of that length is possible, and with them the response is
known. -/
theorem response_hidden_or_exposed {history : List Boot}
    (enrolled : isEnrolled (after history).store = true) :
    ∃ response, EnrolledWith history response ∧
      (Erased (after history).store → Hidden history response) ∧
      (¬ Erased (after history).store →
        responseFromCounters (after history).store = some response) := by
  obtain ⟨response, enrolledWith⟩ := enrolled_with enrolled
  exact ⟨response, enrolledWith, enrolledWith.hidden, enrolledWith.exposed⟩

/-- A run of ones hides its response, and exposes it if power fails before the counters go. -/
theorem ones_hidden_or_exposed :
    (∃ response, EnrolledWith (onesBoot :: onesWakes ++ [onesBoot]) response ∧
      Hidden (onesBoot :: onesWakes ++ [onesBoot]) response) ∧
    ∃ response, EnrolledWith (onesBoot :: onesWakes ++ [cutBoot]) response ∧
      responseFromCounters (after (onesBoot :: onesWakes ++ [cutBoot])).store = some response := by
  obtain ⟨enrolled, kept⟩ := cut_keeps cutBoot_cuts
  obtain ⟨response, enrolledWith, hidden, _⟩ := response_hidden_or_exposed ones_enrolled
  obtain ⟨other, enrolledToo, _, exposed⟩ := response_hidden_or_exposed enrolled
  exact ⟨⟨response, enrolledWith, hidden (erased_enrolled ones_uncut ones_enrolled)⟩,
    other, enrolledToo, exposed kept⟩

end Microgrid.AppMain
