import Mathlib.Data.List.Basic
import Microgrid.Puf.EnrollmentRuns

/-!
# What the helper data contribute to the key

`get_mask_ecc_hash` hashes the four blobs one after the other, without their lengths. Two
contents are told apart exactly if they are not one byte string that was cut at different
places. Any single byte that is there can be moved into another blob, so only four empty
blobs are told apart from every other content. Among contents whose blobs have the same lengths
every byte counts.
-/

namespace Microgrid.RotIdentity

open Puflib Puf AppMain

/-- What `get_mask_ecc_hash` feeds to SHA-256. -/
def hashInput (data : HelperData) : Bytes :=
  data.pufMask ++ data.eccData ++ data.pufSleepMask ++ data.eccSleepData

/-- The `info` of `rot_identity_derive_keypair` in one attempt. -/
def hkdfInfo (mbedtls : Mbedtls) (nvs : Nvs) (attempt : Nat) : Option Bytes :=
  (getMaskEccHash mbedtls nvs).map fun maskEccHash =>
    infoBase ++ maskEccHash ++ [UInt8.ofNat attempt]

/-- A byte string cut into blobs, the first three of given lengths. -/
def cutBlobs (bytes : Bytes) (mask ecc sleepMask : Nat) : HelperData where
  pufMask := bytes.take mask
  eccData := (bytes.drop mask).take ecc
  pufSleepMask := ((bytes.drop mask).drop ecc).take sleepMask
  eccSleepData := ((bytes.drop mask).drop ecc).drop sleepMask

/-- Different contents that are one byte string, cut at different places. -/
def Recut (first second : HelperData) : Prop :=
  first ≠ second ∧ ∃ bytes mask ecc sleepMask mask' ecc' sleepMask',
    first = cutBlobs bytes mask ecc sleepMask ∧ second = cutBlobs bytes mask' ecc' sleepMask'

/-- Different contents lead to different input of SHA-256 and, in every attempt, to different
`info`. -/
def Bound (mbedtls : Mbedtls) (first second : HelperData) (nvs nvs' : Nvs) : Prop :=
  first ≠ second → hashInput first ≠ hashInput second ∧
    ∀ attempt, hkdfInfo mbedtls nvs attempt ≠ hkdfInfo mbedtls nvs' attempt

variable {mbedtls : Mbedtls} {first second : HelperData} {nvs nvs' : Nvs}

/-- The hash of stored contents is that of their concatenation. -/
theorem getMaskEccHash_holds (holds : Holds first nvs) :
    getMaskEccHash mbedtls nvs = some (mbedtls.sha256 (hashInput first)) := by
  simp only [getMaskEccHash, holds.pufMask, holds.eccData, holds.pufSleepMask,
    holds.eccSleepData]
  rfl

/-- A cut byte string is put together again. -/
theorem hashInput_cutBlobs (bytes : Bytes) (mask ecc sleepMask : Nat) :
    hashInput (cutBlobs bytes mask ecc sleepMask) = bytes := by
  simp only [hashInput, cutBlobs, List.append_assoc, List.take_append_drop]

/-- Every content is its concatenation, cut at its own lengths. -/
theorem cutBlobs_hashInput (data : HelperData) : cutBlobs (hashInput data) data.pufMask.length
    data.eccData.length data.pufSleepMask.length = data := by
  simp only [hashInput, cutBlobs, List.append_assoc, List.take_left, List.drop_left]

/-- Different contents have the same concatenation exactly if one is the other, cut elsewhere. -/
theorem recut_iff : Recut first second ↔ first ≠ second ∧ hashInput first = hashInput second := by
  refine and_congr_right fun _ => ?_
  constructor
  · rintro ⟨bytes, mask, ecc, sleepMask, mask', ecc', sleepMask', rfl, rfl⟩
    rw [hashInput_cutBlobs, hashInput_cutBlobs]
  · intro same
    refine ⟨hashInput first, _, _, _, second.pufMask.length, second.eccData.length,
      second.pufSleepMask.length, (cutBlobs_hashInput first).symm, ?_⟩
    rw [same, cutBlobs_hashInput]

/-- With an injective hash, the `info` differs where the concatenations do. -/
theorem hkdfInfo_ne (injective : Function.Injective mbedtls.sha256) (holds : Holds first nvs)
    (holds' : Holds second nvs') (different : hashInput first ≠ hashInput second) (attempt : Nat) :
    hkdfInfo mbedtls nvs attempt ≠ hkdfInfo mbedtls nvs' attempt := by
  rw [hkdfInfo, hkdfInfo, getMaskEccHash_holds holds, getMaskEccHash_holds holds']
  intro same
  have joined := Option.some.inj same
  exact different (injective (List.append_cancel_left (List.append_cancel_right joined)))

/-- Contents are bound to the derivation exactly if they are not the same bytes cut elsewhere. -/
theorem bound_iff (injective : Function.Injective mbedtls.sha256) (holds : Holds first nvs)
    (holds' : Holds second nvs') :
    Bound mbedtls first second nvs nvs' ↔ ¬ Recut first second := by
  rw [recut_iff]
  constructor
  · rintro bound ⟨different, same⟩
    exact (bound different).1 same
  · intro apart different
    have unequal : hashInput first ≠ hashInput second := fun same => apart ⟨different, same⟩
    exact ⟨unequal, hkdfInfo_ne injective holds holds' unequal⟩

/-- The same lengths leave one place for each cut. -/
theorem not_recut_of_lengths (mask : first.pufMask.length = second.pufMask.length)
    (ecc : first.eccData.length = second.eccData.length)
    (sleepMask : first.pufSleepMask.length = second.pufSleepMask.length) :
    ¬ Recut first second := by
  rw [recut_iff]
  rintro ⟨different, same⟩
  apply different
  rw [← cutBlobs_hashInput first, ← cutBlobs_hashInput second, same, mask, ecc, sleepMask]

/-- Contents with any byte in them can be cut elsewhere. -/
theorem exists_recut (filled : hashInput first ≠ []) : ∃ second, Recut first second := by
  by_cases whole : first.pufMask = hashInput first
  · refine ⟨cutBlobs (hashInput first) 0 0 0, recut_iff.mpr ⟨?_, (hashInput_cutBlobs _ _ _ _).symm⟩⟩
    intro same
    have none : first.pufMask = [] := congrArg HelperData.pufMask same
    exact filled (whole.symm.trans none)
  · refine ⟨cutBlobs (hashInput first) (hashInput first).length 0 0,
      recut_iff.mpr ⟨?_, (hashInput_cutBlobs _ _ _ _).symm⟩⟩
    intro same
    have all := congrArg HelperData.pufMask same
    exact whole (all.trans (List.take_length))

/-- With an injective hash: two contents lead to different input of SHA-256 and different
`info` unless one is the bytes of the other cut at different places, as they cannot be if their
blobs have the same lengths, and contents for which no other content does are four empty blobs. -/
theorem helper_binding (mbedtls : Mbedtls) (injective : Function.Injective mbedtls.sha256) :
    (∀ first second nvs nvs', Holds first nvs → Holds second nvs' →
      (Bound mbedtls first second nvs nvs' ↔ ¬ Recut first second)) ∧
    (∀ first second nvs nvs', Holds first nvs → Holds second nvs' →
      first.pufMask.length = second.pufMask.length →
      first.eccData.length = second.eccData.length →
      first.pufSleepMask.length = second.pufSleepMask.length →
      Bound mbedtls first second nvs nvs') ∧
    ∀ first nvs, Holds first nvs →
      ((∀ second nvs', Holds second nvs' → Bound mbedtls first second nvs nvs') ↔
        hashInput first = []) := by
  refine ⟨fun first second nvs nvs' => bound_iff injective, ?_, fun first nvs holds => ?_⟩
  · intro first second nvs nvs' holds holds' mask ecc sleepMask
    exact (bound_iff injective holds holds').mpr (not_recut_of_lengths mask ecc sleepMask)
  constructor
  · intro bound
    by_contra filled
    obtain ⟨second, recut⟩ := exists_recut filled
    have holds' := holds_storeAll second Nvs.blank
    exact (bound_iff injective holds holds').mp (bound second _ holds') recut
  · intro none second nvs' holds'
    rw [bound_iff injective holds holds', recut_iff]
    rintro ⟨different, same⟩
    apply different
    rw [← cutBlobs_hashInput first, ← cutBlobs_hashInput second, ← same, none]
    simp [cutBlobs]

/-- A library whose hash keeps everything. -/
def plainMbedtls : Mbedtls where
  ecpGroupLoad := true
  sha256 data := data
  hkdf _ _ _ := none
  mpiReadBinary _ := none
  ecpMul _ := none

/-- The contents that differ in the length of the mask only are told apart. -/
theorem helper_binding_mask : Bound plainMbedtls ⟨[1], [], [], []⟩ ⟨[], [], [], []⟩
    (HelperData.storeAll ⟨[1], [], [], []⟩ Nvs.blank)
    (HelperData.storeAll ⟨[], [], [], []⟩ Nvs.blank) := by
  refine ((helper_binding plainMbedtls fun _ _ same => same).1 _ _ _ _ (holds_storeAll _ Nvs.blank)
    (holds_storeAll _ Nvs.blank)).mpr ?_
  rw [recut_iff]
  rintro ⟨-, same⟩
  cases same

/-- A byte that is moved from `PUF_MASK` to `ECC_DATA` changes neither the input of SHA-256
nor the `info`. -/
theorem moved_byte_unnoticed :
    ¬∀ (mbedtls : Mbedtls), Function.Injective mbedtls.sha256 →
      ∀ first second nvs nvs', Holds first nvs → Holds second nvs' →
        Bound mbedtls first second nvs nvs' := by
  intro bound
  have moved := bound plainMbedtls (fun _ _ same => same) ⟨[1], [], [], []⟩ ⟨[], [], [], [1]⟩ _ _
    (holds_storeAll _ Nvs.blank) (holds_storeAll _ Nvs.blank) (fun same => by cases same)
  exact moved.1 rfl

end Microgrid.RotIdentity
