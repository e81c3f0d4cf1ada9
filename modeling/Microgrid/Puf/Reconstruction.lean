import Microgrid.Puf.EnrollmentRuns

/-!
# Reconstruction on an enrolled node

Both paths take a mask, helper data and a measurement, and end with a response in a new
buffer. On a store that holds the blobs of one provisioning run no assertion on the way can
fail, whatever was measured: the mask selects as many bits as the helper data takes.

The measurement decides what the response is and, by its weight, whether it is kept. A
response that is kept is `Live` until `clean_puf_response`.
-/

namespace Microgrid.Puflib

open CrashPrograms Puf RotIdentity

/-! ### Response buffers -/

/-- A response in a new buffer. -/
def Memory.respond (memory : Memory) (response : Bytes) : Memory :=
  { memory with
    pufResponse := some memory.buffers.length
    pufResponseLen := response.length
    buffers := memory.buffers ++ [response] }

/-- What `clean_puf_response` makes of the memory. -/
def Memory.cleaned (memory : Memory) : Memory :=
  { memory with
    buffers := memory.pufResponse.elim memory.buffers fun pointer =>
      memory.buffers.modify pointer (zeroise memory.pufResponseLen)
    pufResponse := none
    pufResponseLen := 0
    pufState := .responseClean }

/-- Every byte of every buffer is zero. -/
def Zeroised (buffers : List Bytes) : Prop := ∀ buffer ∈ buffers, ∀ byte ∈ buffer, byte = 0

/-- No response is left in memory. -/
structure Released (memory : Memory) : Prop where
  state : memory.pufState = .responseClean
  buffers : Zeroised memory.buffers

/-- A response of this length is in memory, in the last buffer. -/
structure Live (length : Nat) (memory : Memory) : Prop where
  state : memory.pufState = .responseReady
  buffers : ∃ earlier response, memory.buffers = earlier ++ [response] ∧ Zeroised earlier ∧
    response.length = length
  pointer : memory.pufResponse = some (memory.buffers.length - 1)
  len : memory.pufResponseLen = length

theorem zeroise_length (buffer : Bytes) : ∀ byte ∈ zeroise buffer.length buffer, byte = 0 := by
  intro byte member
  rw [zeroise, List.drop_length, List.append_nil] at member
  exact List.eq_of_mem_replicate member

/-- Cleaning zeroises the buffer that `PUF_RESPONSE` points to. -/
theorem cleaned_buffers {memory : Memory} {earlier : List Bytes} {response : Bytes}
    (buffers : memory.buffers = earlier ++ [response])
    (pointer : memory.pufResponse = some (memory.buffers.length - 1))
    (len : memory.pufResponseLen = response.length) (zeroised : Zeroised earlier) :
    Zeroised memory.cleaned.buffers := by
  have last : memory.buffers.length - 1 = earlier.length := by
    rw [buffers, List.length_append]
    rfl
  have cleaned : memory.cleaned.buffers = earlier ++ [zeroise response.length response] := by
    rw [Memory.cleaned, pointer, last, buffers, len]
    exact List.modifyTailIdx_add (List.modifyHead (zeroise response.length)) 0 earlier [response]
  rw [cleaned]
  intro buffer member
  rcases List.mem_append.mp member with before | now
  · exact zeroised buffer before
  · rw [List.mem_singleton.mp now]
    exact zeroise_length response

/-- A response is released once it is cleaned. -/
theorem Live.cleaned {length : Nat} {memory : Memory} (live : Live length memory) :
    Released memory.cleaned := by
  obtain ⟨earlier, response, buffers, zeroised, size⟩ := live.buffers
  exact ⟨rfl, cleaned_buffers buffers live.pointer (live.len.trans size.symm) zeroised⟩

/-! ### A reconstruction -/

/-- The bits of a measurement that a mask of stable bits selects, packed. -/
def maskedPuf (pufFreq : List Nat) (bits : Nat) (sram : Sram) : Bytes :=
  packBytes ((selected ((pufFreq.map stableBit).zip (readBits sram.bytes))).take bits)

/-- One path finds its mask and helper data of fitting sizes. -/
structure Fitting (maskKey eccKey : Key) (nvs : Nvs) (pufFreq : List Nat) (bits : Nat)
    (ecc : Bytes) : Prop where
  size : pufFreq.length = pufMemorySize * 8
  whole : bits % 64 = 0
  few : bits ≤ stableCount pufFreq
  selects : 0 < bits ∨ stableCount pufFreq = 0
  mask : nvs maskKey = some (packBytes (pufFreq.map stableBit))
  eccData : nvs eccKey = some ecc
  eccLength : ecc.length = bits / 8

/-- A measurement has a bit for every counter. -/
theorem readBits_sram (sram : Sram) : (readBits sram.bytes).length = pufMemorySize * 8 := by
  rw [readBits_length, sram.size]

/-- The mask selects exactly what the helper data takes. -/
theorem Fitting.masked {maskKey eccKey : Key} {nvs : Nvs} {pufFreq : List Nat} {bits : Nat}
    {ecc : Bytes} (fitting : Fitting maskKey eccKey nvs pufFreq bits ecc) (sram : Sram) :
    applyPufMask (packBytes (pufFreq.map stableBit)) (ecc.length * 8) sram.bytes ecc.length =
      some (maskedPuf pufFreq bits sram) ∧ (maskedPuf pufFreq bits sram).length = ecc.length := by
  have whole := fitting.whole
  have asked : ecc.length * 8 = bits := by
    rw [fitting.eccLength]
    omega
  have enough : (selected ((pufFreq.map stableBit).zip (readBits sram.bytes))).length =
      stableCount pufFreq :=
    selected_length (by rw [List.length_map, fitting.size, readBits_sram])
  have length : (maskedPuf pufFreq bits sram).length = ecc.length := by
    rw [maskedPuf, packBytes_length, List.length_take, enough, Nat.min_eq_left fitting.few,
      fitting.eccLength]
  refine ⟨?_, length⟩
  rw [asked]
  by_cases positive : 0 < bits
  · rw [fitting.eccLength, applyPufMask_eq _ _ positive (by omega), readBits_counts fitting.size]
    rfl
  · obtain rfl : bits = 0 := by omega
    have empty : selected ((pufFreq.map stableBit).zip (readBits sram.bytes)) = [] := by
      rw [← List.length_eq_zero_iff, enough]
      exact fitting.selects.resolve_left positive
    have loop := applyLoop_empty ((pufFreq.map stableBit).zip (readBits sram.bytes)) 0
    rw [if_pos empty] at loop
    rw [fitting.eccLength, applyPufMask, readBits_counts fitting.size, loop, maskedPuf, empty]
    rfl

/-- Correction does not fail on data of one length. -/
theorem correctData_total {maskedData eccData : Bytes} (same : maskedData.length = eccData.length)
    (whole : eccData.length % 8 = 0) :
    ∃ response errors, correctData maskedData eccData (eccData.length / 8) =
      some (response, errors) := by
  obtain ⟨arr, filled, _⟩ := fill ((List.zipWith (· ^^^ ·) maskedData eccData).map majority)
    (show ((List.zipWith (· ^^^ ·) maskedData eccData).map majority).length =
      eccData.length / 8 * 8 by
      rw [List.length_map, List.length_zipWith, same, Nat.min_self]
      omega)
  rw [List.map_zipWith] at filled
  have ran : correctData maskedData eccData (eccData.length / 8) =
      some (arr.copyData, hammingWeight ((List.zipWith (· ^^^ ·) maskedData eccData).map
        fun codeWord => if majority codeWord then ~~~codeWord else codeWord)) := by
    simp [correctData, guard, same, filled]
  exact ⟨_, _, ran⟩

/-- A reconstruction runs through and leaves its response in a new buffer. -/
theorem reconstruct_run {maskKey eccKey : Key} {nvs : Nvs} {pufFreq : List Nat} {bits : Nat}
    {ecc : Bytes} (fitting : Fitting maskKey eccKey nvs pufFreq bits ecc) (sram : Sram)
    (memory : Memory) :
    ∃ response errors, correctData (maskedPuf pufFreq bits sram) ecc (ecc.length / 8) =
        some (response, errors) ∧ response.length = ecc.length / 8 ∧
      reconstruct maskKey eccKey sram nvs memory =
        ⟨[], memory.respond response, .returned ()⟩ := by
  have whole := fitting.whole
  obtain ⟨masked, length⟩ := fitting.masked sram
  obtain ⟨response, errors, corrected⟩ := correctData_total length
    (by rw [fitting.eccLength]; omega)
  have size := correctData_length corrected
  refine ⟨response, errors, corrected, size, ?_⟩
  have maskSize : (packBytes (pufFreq.map stableBit)).length = pufMemorySize := by
    rw [packBytes_length, List.length_map, fitting.size]
    omega
  rw [reconstruct, getBlob_bind fitting.mask, assert_bind maskSize, getBlob_bind fitting.eccData,
    Program.remember_bind, masked, Program.require_some_bind, corrected,
    Program.require_some_bind, Memory.respond, size]
  rfl

end Microgrid.Puflib

namespace Microgrid.AppMain

open CrashPrograms Puf Puflib RotIdentity

/-- The store holds the blobs of a provisioning run whose assertion held. -/
structure Recoverable (nvs : Nvs) (pufFreqRtc pufFreqSleep : List Nat) : Prop where
  rtcSize : pufFreqRtc.length = pufMemorySize * 8
  sleepSize : pufFreqSleep.length = pufMemorySize * 8
  derivable : Derivable pufFreqRtc pufFreqSleep
  holds : Holds (helperData pufFreqRtc pufFreqSleep) nvs

/-- The blobs of the RTC path fit together. -/
theorem Recoverable.fittingRtc {nvs : Nvs} {pufFreqRtc pufFreqSleep : List Nat}
    (recoverable : Recoverable nvs pufFreqRtc pufFreqSleep) :
    Fitting .pufMask .eccData nvs pufFreqRtc (helperBits pufFreqRtc pufFreqSleep)
      (helperData pufFreqRtc pufFreqSleep).eccData where
  size := recoverable.rtcSize
  whole := helperBits_whole pufFreqRtc pufFreqSleep
  few := (helperBits_le pufFreqRtc pufFreqSleep).1
  selects := recoverable.derivable.imp_right And.left
  mask := recoverable.holds.pufMask
  eccData := recoverable.holds.eccData
  eccLength := (helperData_length pufFreqRtc pufFreqSleep).1

/-- So do those of the deep-sleep path. -/
theorem Recoverable.fittingSleep {nvs : Nvs} {pufFreqRtc pufFreqSleep : List Nat}
    (recoverable : Recoverable nvs pufFreqRtc pufFreqSleep) :
    Fitting .pufSleepMask .eccSleepData nvs pufFreqSleep (helperBits pufFreqRtc pufFreqSleep)
      (helperData pufFreqRtc pufFreqSleep).eccSleepData where
  size := recoverable.sleepSize
  whole := helperBits_whole pufFreqRtc pufFreqSleep
  few := (helperBits_le pufFreqRtc pufFreqSleep).2
  selects := recoverable.derivable.imp_right And.right
  mask := recoverable.holds.pufSleepMask
  eccData := recoverable.holds.eccSleepData
  eccLength := (helperData_length pufFreqRtc pufFreqSleep).2

theorem Recoverable.isEnrolled {nvs : Nvs} {pufFreqRtc pufFreqSleep : List Nat}
    (recoverable : Recoverable nvs pufFreqRtc pufFreqSleep) : isEnrolled nvs = true :=
  recoverable.holds.isEnrolled

/-- An enrolled node is recoverable. -/
theorem recoverable_after {history : List Boot} (enrolled : isEnrolled (after history).store = true) :
    ∃ pufFreqRtc pufFreqSleep, Recoverable (after history).store pufFreqRtc pufFreqSleep := by
  have present : (after history).store .eccData ≠ none := by
    intro unwritten
    rw [isEnrolled_unwritten unwritten] at enrolled
    cases enrolled
  obtain ⟨_, _, wakes, last, _, _, completed, holds⟩ := (consistent_after history).written present
  refine ⟨getPufBitFrequency last.inputs, countOnes (samples (wakes ++ [last])), ?_,
    countOnes_length _, completed.derivable, holds⟩
  rw [getPufBitFrequency_eq, countOnes_length]

/-- `get_puf_response` leaves a response or, if the measurement fails its check, cleans up. -/
theorem getPufResponse_reconstructed {nvs : Nvs} {inputs : Measurements} {memory : Memory}
    {response : Bytes} (ran : reconstruct .pufMask .eccData inputs.responseSram nvs memory =
      ⟨[], memory.respond response, .returned ()⟩) :
    getPufResponse inputs nvs memory =
      if hwOk inputs.responseSram then
        ⟨[], { memory.respond response with pufState := .responseReady }, .returned true⟩
      else
        ⟨[], { memory.respond response with pufState := .responseReady }.cleaned,
          .returned false⟩ := by
  rw [getPufResponse, Program.bind_returned ran _ rfl, Program.remember_bind]
  split <;> rfl

/-- `puf_response_reset_calculate` does the same with the measurement of the deep sleep. -/
theorem pufResponseResetCalculate_reconstructed {nvs : Nvs} {inputs : Measurements}
    {memory : Memory} (retrying : Retrying memory) {response : Bytes}
    (ran : reconstruct .pufSleepMask .eccSleepData inputs.pufBuffer nvs memory =
      ⟨[], memory.respond response, .returned ()⟩) :
    pufResponseResetCalculate inputs nvs memory =
      if hwOk inputs.pufBuffer then
        ⟨[], { memory.respond response with state := .none, pufState := .responseReady },
          .returned ()⟩
      else ⟨[], { memory.respond response with state := .none }.cleaned, .returned ()⟩ := by
  rw [pufResponseResetCalculate, Program.inspect_bind,
    assert_bind (show memory.state = .pufResponseReset from retrying),
    Program.bind_returned ran _ rfl, Program.remember_bind]
  split <;> rfl

end Microgrid.AppMain
