import Mathlib.Logic.Function.Basic
import Microgrid.Foundation.CrashPrograms
import Microgrid.Puf.Ecc

/-!
# The PUF library as programs over NVS and RTC memory

The storage of `nvs.c`, the state machine of `puf_measurement.c` and the provisioning
half of `ecc.c`. NVS is the durable store, every `nvs_set_blob` and `nvs_erase_key` one
atomic operation on it. RTC variables and globals are the volatile memory: deep sleep
keeps the former, and anything else starts both afresh. What the SRAM holds at each
measurement is an input.

Failed assertions abort. So does going on with a blob that is not there: the source
ignores the result of `get_blob` in those places and would use uninitialised variables.
-/

namespace Microgrid.Puflib

open CrashPrograms Puf

/-- `PUF_MEMORY_SIZE`. -/
def pufMemorySize : Nat := 0x1000

/-- What the measured SRAM region holds. -/
structure Sram where
  bytes : Bytes
  size : bytes.length = pufMemorySize

/-- The measurements of one boot: what the wake-up stub copied to `PUF_BUFFER`, the RTC
SRAM at each of the measurements of `get_puf_bit_frequency`, and at that of
`get_puf_response`. -/
structure Measurements where
  pufBuffer : Sram
  rtcSram : Nat → Sram
  responseSram : Sram

/-- The keys of the `storage` namespace. -/
inductive Key where
  | eccData
  | pufMask
  | eccSleepData
  | pufSleepMask
  | pufFrequency
deriving DecidableEq

/-- The `storage` namespace. -/
abbrev Nvs := Key → Option Bytes

/-- `nvs_set_blob`. -/
def Nvs.put (nvs : Nvs) (key : Key) (blob : Bytes) : Nvs := Function.update nvs key (some blob)

/-- `nvs_erase_key`. -/
def Nvs.erase (nvs : Nvs) (key : Key) : Nvs := Function.update nvs key none

/-- Nothing was ever written. -/
def Nvs.blank : Nvs := fun _ => none

/-- `enum STATE`. -/
inductive State where
  | none
  | provisioning
  | pufResponseReset
deriving DecidableEq

/-- `enum PufState`. -/
inductive PufState where
  | responseClean
  | responseReady
deriving DecidableEq

/-- `PUFLIB_STATE`, `PUF_STATE` and `s_puf_reset_retry_count` in RTC memory, the globals
`PUF_RESPONSE` and `PUF_RESPONSE_LEN`, and the response buffers that were allocated since
the boot, freed ones included. `PUF_RESPONSE` points to one of them. -/
structure Memory where
  state : State := .none
  iterationProgress : Nat := 0
  pufState : PufState := .responseClean
  pufResetRetryCount : Nat := 0
  pufResponse : Option Nat := none
  pufResponseLen : Nat := 0
  buffers : List Bytes := []

/-- Deep sleep keeps RTC memory only. -/
def Memory.wake (memory : Memory) : Memory :=
  { memory with pufResponse := none, pufResponseLen := 0, buffers := [] }

/-- Firmware code. -/
abbrev FirmwareM := Program Nvs Memory

/-- `set_blob`. -/
def setBlob (blob : Bytes) (key : Key) : FirmwareM Unit := Program.store (·.put key blob)

/-- `get_blob`, by a caller that takes the blob for granted. -/
def getBlob (key : Key) : FirmwareM Bytes := do
  let nvs ← Program.load
  Program.require (nvs key)

/-- `delete_blob`. -/
def deleteBlob (key : Key) : FirmwareM Unit := Program.store (·.erase key)

/-- `assert`. -/
def assert (condition : Prop) [Decidable condition] : FirmwareM Unit :=
  Program.require (guard condition)

/-- A blob that is there is read. -/
theorem getBlob_bind {key : Key} {nvs : Nvs} {blob : Bytes} (present : nvs key = some blob)
    {α : Type} (rest : Bytes → FirmwareM α) (memory : Memory) :
    (getBlob key >>= rest) nvs memory = rest blob nvs memory := by
  have read : getBlob key nvs memory = ⟨[], memory, .returned blob⟩ := by
    simp only [getBlob, Program.load_bind, Program.require, present]
  rw [Program.bind_returned read rest rfl]
  rfl

/-- An assertion that holds is passed. -/
theorem assert_bind {condition : Prop} [Decidable condition] (holds : condition) {α : Type}
    (rest : Unit → FirmwareM α) (nvs : Nvs) (memory : Memory) :
    (assert condition >>= rest) nvs memory = rest () nvs memory := by
  rw [assert, guard, if_pos holds]
  rfl

/-- An array of `uint16_t` counters in memory. -/
def frequencyBytes (pufFreq : List Nat) : Bytes :=
  pufFreq.flatMap fun freq => [UInt8.ofNat freq, UInt8.ofNat (freq / 256)]

/-- The counters in a blob. -/
def frequencies : Bytes → List Nat
  | low :: high :: rest => (low.toNat + 256 * high.toNat) :: frequencies rest
  | _ => []

/-- Size of the counters in bytes. -/
def frequencyLen : Nat := pufMemorySize * 8 * 2

/-- `puf_freq[j] += array_getBit(sample, PUF_MEMORY_SIZE, j)` for every counter. -/
def addSample (pufFreq : List Nat) (sample : Sram) : List Nat :=
  List.zipWith (fun freq bit => (freq + bit.toNat) % 65536) pufFreq (readBits sample.bytes)

/-- Counters from `calloc`. -/
def zeroFrequencies : List Nat := List.replicate (pufMemorySize * 8) 0

/-- `get_puf_bit_frequency` into counters from `calloc`. -/
def getPufBitFrequency (inputs : Measurements) : List Nat :=
  (List.range provisioningMeasurements).foldl
    (fun pufFreq measurement => addSample pufFreq (inputs.rtcSram measurement)) zeroFrequencies

/-- `pufsleep_bit_frequency_helper`. -/
def pufsleepBitFrequencyHelper (inputs : Measurements) (firstIteration lastIteration : Bool) :
    FirmwareM Unit := do
  if firstIteration then
    setBlob (frequencyBytes zeroFrequencies) .pufFrequency
  else
    let blob ← getBlob .pufFrequency
    assert (blob.length = frequencyLen)
    setBlob (frequencyBytes (addSample (frequencies blob) inputs.pufBuffer)) .pufFrequency
  if lastIteration then pure () else Program.sleep

/-- `get_pufsleep_bit_frequency`. -/
def getPufsleepBitFrequency (inputs : Measurements) (iterationProgress : Nat) :
    FirmwareM (List Nat) := do
  if iterationProgress ≤ provisioningMeasurements then
    pufsleepBitFrequencyHelper inputs (iterationProgress == 0)
      (iterationProgress == provisioningMeasurements)
  else pure ()
  let blob ← getBlob .pufFrequency
  assert (blob.length = frequencyLen)
  pure (frequencies blob)

/-- `provision_puf_helper`. -/
def provisionPufHelper (pufFreqRtc pufFreqSleep : List Nat) : FirmwareM Unit := do
  let (maskRtc, maskRtcHw) ← Program.require (createPufMask pufFreqRtc pufMemorySize)
  let (maskSleep, maskSleepHw) ← Program.require (createPufMask pufFreqSleep pufMemorySize)
  let maskHw := min maskRtcHw maskSleepHw
  setBlob maskRtc .pufMask
  setBlob maskSleep .pufSleepMask
  let pufReferenceRtc ← Program.require (createPufReference pufFreqRtc pufMemorySize)
  let pufReferenceSleep ← Program.require (createPufReference pufFreqSleep pufMemorySize)
  let maskedReferenceRtc ←
    Program.require (applyPufMask maskRtc maskHw pufReferenceRtc (maskHw / 8))
  let maskedReferenceSleep ←
    Program.require (applyPufMask maskSleep maskHw pufReferenceSleep (maskHw / 8))
  setBlob (generateEccData maskedReferenceSleep) .eccSleepData
  setBlob (generateEccDataTemplate maskedReferenceRtc maskedReferenceSleep) .eccData

/-- `provision_puf_calculate`. -/
def provisionPufCalculate (inputs : Measurements) : FirmwareM Unit := do
  let memory ← Program.inspect
  let pufFreqSleep ← getPufsleepBitFrequency inputs memory.iterationProgress
  provisionPufHelper (getPufBitFrequency inputs) pufFreqSleep
  setBlob (List.replicate frequencyLen 0) .pufFrequency
  deleteBlob .pufFrequency

/-- `enroll_puf`. -/
def enrollPuf (inputs : Measurements) : FirmwareM Unit := do
  let memory ← Program.inspect
  match memory.state with
  | .provisioning => Program.remember ({ · with state := .none, iterationProgress := 0 })
  | .none =>
    Program.remember ({ · with state := .provisioning, iterationProgress := 0 })
    provisionPufCalculate inputs
  | .pufResponseReset => pure ()

/-- `memset(buffer, 0x00, len)`. -/
def zeroise (len : Nat) (buffer : Bytes) : Bytes :=
  List.replicate (min len buffer.length) 0 ++ buffer.drop len

/-- `clean_puf_response`. -/
def cleanPufResponse : FirmwareM Unit :=
  Program.remember fun memory =>
    { memory with
      buffers := memory.pufResponse.elim memory.buffers fun pointer =>
        memory.buffers.modify pointer (zeroise memory.pufResponseLen)
      pufResponse := none
      pufResponseLen := 0
      pufState := .responseClean }

/-- `puf_hw_percent > PUF_HW_THRESHOLD_PERCENT`: the quotient and 48.5 are both exact. -/
def hwOk (sram : Sram) : Bool := 2 * (100 * hammingWeight sram.bytes) > 97 * (pufMemorySize * 8)

/-- What both reconstruction paths do with their mask, helper data and measurement. -/
def reconstruct (maskKey eccKey : Key) (sram : Sram) : FirmwareM Unit := do
  let mask ← getBlob maskKey
  assert (mask.length = pufMemorySize)
  let eccData ← getBlob eccKey
  Program.remember ({ · with pufResponseLen := eccData.length / 8 })
  let maskedPuf ←
    Program.require (applyPufMask mask (eccData.length * 8) sram.bytes eccData.length)
  let (response, _) ← Program.require (correctData maskedPuf eccData (eccData.length / 8))
  Program.remember fun memory =>
    { memory with
      buffers := memory.buffers ++ [response]
      pufResponse := some memory.buffers.length }

/-- `get_puf_response`. -/
def getPufResponse (inputs : Measurements) : FirmwareM Bool := do
  reconstruct .pufMask .eccData inputs.responseSram
  Program.remember ({ · with pufState := .responseReady })
  if hwOk inputs.responseSram then pure true
  else
    cleanPufResponse
    pure false

/-- `get_puf_response_reset`. -/
def getPufResponseReset {α : Type} : FirmwareM α := do
  Program.remember ({ · with state := .pufResponseReset })
  Program.sleep

/-- `puf_response_reset_calculate`. -/
def pufResponseResetCalculate (inputs : Measurements) : FirmwareM Unit := do
  let memory ← Program.inspect
  assert (memory.state = .pufResponseReset)
  reconstruct .pufSleepMask .eccSleepData inputs.pufBuffer
  Program.remember ({ · with state := .none })
  if hwOk inputs.pufBuffer then Program.remember ({ · with pufState := .responseReady })
  else cleanPufResponse

/-- `puflib_init`. -/
def puflibInit (inputs : Measurements) : FirmwareM Unit := do
  let memory ← Program.inspect
  match memory.state with
  | .none => pure ()
  | .provisioning =>
    Program.remember ({ · with iterationProgress := memory.iterationProgress + 1 })
    provisionPufCalculate inputs
  | .pufResponseReset => pufResponseResetCalculate inputs

end Microgrid.Puflib
