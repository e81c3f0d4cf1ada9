import Microgrid.Puf.ResponseLifetime

/-!
# One identity over both paths

The two paths measure different memories, under different masks and with different
references. Their helper data is made for one response, the highest bits of the masked
deep-sleep reference: the encoder of the RTC path takes that reference for a template.
Up to three errors in every byte are corrected, so whichever path a boot takes, and
whatever the noise, the response is the same, and the key pair with it.
-/

namespace Microgrid.StableIdentity

open CrashPrograms Puf Puflib RotIdentity AppMain

/-- The response that the blobs of two arrays of counts are made for. -/
def enrolledResponse (pufFreqRtc pufFreqSleep : List Nat) : Bytes :=
  packBytes ((maskedReference pufFreqSleep (helperBits pufFreqRtc pufFreqSleep)).map highestBit)

/-- What `PUF_RESPONSE` points to. -/
def response (memory : Memory) : Option Bytes := memory.pufResponse.bind fun pointer =>
  memory.buffers[pointer]?

theorem response_respond (memory : Memory) (bytes : Bytes) (state : State) (pufState : PufState) :
    response { memory.respond bytes with state := state, pufState := pufState } = some bytes :=
  List.getElem?_concat_length ..

/-- A measurement near the reference of its path is corrected to the enrolled response. -/
theorem corrected_near {pufFreq pufFreqSleep : List Nat} {bits : Nat} (whole : bits % 64 = 0)
    (few : bits ≤ stableCount pufFreq) (fewSleep : bits ≤ stableCount pufFreqSleep) {sram : Sram}
    (near : Near (maskedPuf pufFreq bits sram) (maskedReference pufFreq bits)) :
    ∃ errors, correctData (maskedPuf pufFreq bits sram)
        (generateEccDataTemplate (maskedReference pufFreq bits) (maskedReference pufFreqSleep bits))
        ((generateEccDataTemplate (maskedReference pufFreq bits)
          (maskedReference pufFreqSleep bits)).length / 8) =
      some (packBytes ((maskedReference pufFreqSleep bits).map highestBit), errors) := by
  have length := maskedReference_length few
  apply correctData_template near
  · rw [length, maskedReference_length fewSleep]
  · rw [length]
    omega

/-- The RTC path ends with the enrolled response. -/
theorem reconstruct_rtc {nvs : Nvs} {pufFreqRtc pufFreqSleep : List Nat}
    (recoverable : Recoverable nvs pufFreqRtc pufFreqSleep) {sram : Sram}
    (near : Near (maskedPuf pufFreqRtc (helperBits pufFreqRtc pufFreqSleep) sram)
      (maskedReference pufFreqRtc (helperBits pufFreqRtc pufFreqSleep))) (memory : Memory) :
    reconstruct .pufMask .eccData sram nvs memory =
      ⟨[], memory.respond (enrolledResponse pufFreqRtc pufFreqSleep), .returned ()⟩ := by
  obtain ⟨few, fewSleep⟩ := helperBits_le pufFreqRtc pufFreqSleep
  obtain ⟨bytes, errors, corrected, _, ran⟩ := reconstruct_run recoverable.fittingRtc sram memory
  obtain ⟨_, expected⟩ := corrected_near (helperBits_whole _ _) few fewSleep near
  rw [ran, (Prod.mk.inj (Option.some.inj (corrected.symm.trans expected))).1, enrolledResponse]

/-- So does the deep-sleep path. -/
theorem reconstruct_sleep {nvs : Nvs} {pufFreqRtc pufFreqSleep : List Nat}
    (recoverable : Recoverable nvs pufFreqRtc pufFreqSleep) {sram : Sram}
    (near : Near (maskedPuf pufFreqSleep (helperBits pufFreqRtc pufFreqSleep) sram)
      (maskedReference pufFreqSleep (helperBits pufFreqRtc pufFreqSleep))) (memory : Memory) :
    reconstruct .pufSleepMask .eccSleepData sram nvs memory =
      ⟨[], memory.respond (enrolledResponse pufFreqRtc pufFreqSleep), .returned ()⟩ := by
  obtain ⟨_, fewSleep⟩ := helperBits_le pufFreqRtc pufFreqSleep
  obtain ⟨bytes, errors, corrected, _, ran⟩ := reconstruct_run recoverable.fittingSleep sram memory
  obtain ⟨_, expected⟩ := corrected_near (helperBits_whole _ _) fewSleep fewSleep near
  rw [show (helperData pufFreqRtc pufFreqSleep).eccSleepData = _ from generateEccData_eq _]
    at corrected
  rw [ran, (Prod.mk.inj (Option.some.inj (corrected.symm.trans expected))).1, enrolledResponse]

/-! ### The key pair -/

/-- Two derivations with the same library: what succeeds in both has one result. Reading a
number out of its bytes fails in neither or in both. -/
structure Agree (first second : Mbedtls) : Prop where
  sha256 : ∀ data, first.sha256 data = second.sha256 data
  hkdf : ∀ salt ikm info okm other, first.hkdf salt ikm info = some okm →
    second.hkdf salt ikm info = some other → okm = other
  mpiReadBinary : ∀ okm, first.mpiReadBinary okm = second.mpiReadBinary okm
  ecpMul : ∀ scalar point other, first.ecpMul scalar = some point →
    second.ecpMul scalar = some other → point = other

/-- A sampled scalar is in range. -/
theorem sampleScalar_range {mbedtls : Mbedtls} {pufResponse maskEccHash : Bytes}
    {remaining attempt scalar : Nat}
    (sampled : sampleScalar mbedtls pufResponse maskEccHash remaining attempt = some scalar) :
    1 ≤ scalar ∧ scalar < groupOrder := by
  induction remaining generalizing attempt with
  | zero => cases sampled
  | succ remaining inductionHypothesis =>
    rw [sampleScalar] at sampled
    split at sampled
    · cases sampled
    · split at sampled
      · exact inductionHypothesis sampled
      · split at sampled
        · rename_i inRange
          rw [← Option.some.inj sampled]
          exact inRange
        · exact inductionHypothesis sampled

/-- Sampling that succeeds twice gives the same scalar. -/
theorem sampleScalar_agree {first second : Mbedtls} (agree : Agree first second)
    {pufResponse maskEccHash : Bytes} {remaining attempt scalar other : Nat}
    (sampled : sampleScalar first pufResponse maskEccHash remaining attempt = some scalar)
    (again : sampleScalar second pufResponse maskEccHash remaining attempt = some other) :
    scalar = other := by
  induction remaining generalizing attempt with
  | zero => cases sampled
  | succ remaining inductionHypothesis =>
    rw [sampleScalar] at sampled again
    cases expanded : first.hkdf salt pufResponse
        (infoBase ++ maskEccHash ++ [UInt8.ofNat attempt]) with
    | none =>
      rw [expanded] at sampled
      cases sampled
    | some okm =>
      cases expandedAgain : second.hkdf salt pufResponse
          (infoBase ++ maskEccHash ++ [UInt8.ofNat attempt]) with
      | none =>
        rw [expandedAgain] at again
        cases again
      | some okmAgain =>
        obtain rfl := agree.hkdf _ _ _ _ _ expanded expandedAgain
        rw [expanded] at sampled
        rw [expandedAgain] at again
        dsimp only at sampled again
        rw [← agree.mpiReadBinary] at again
        cases read : first.mpiReadBinary okm with
        | none =>
          rw [read] at sampled again
          exact inductionHypothesis sampled again
        | some candidate =>
          rw [read] at sampled again
          dsimp only at sampled again
          by_cases inRange : 0 < candidate ∧ candidate < groupOrder
          · rw [if_pos inRange] at sampled again
            exact Option.some.inj (sampled.symm.trans again)
          · rw [if_neg inRange] at sampled again
            exact inductionHypothesis sampled again

/-- What a successful derivation went through. -/
theorem rotIdentityDeriveKeypair_inv {mbedtls : Mbedtls} {nvs : Nvs} {pufResponse : Bytes}
    {keyPair : Nat × Bytes}
    (derived : rotIdentityDeriveKeypair mbedtls nvs pufResponse = some keyPair) :
    ∃ maskEccHash, getMaskEccHash mbedtls nvs = some maskEccHash ∧
      sampleScalar mbedtls pufResponse maskEccHash 8 0 = some keyPair.1 ∧
      mbedtls.ecpMul keyPair.1 = some keyPair.2 := by
  simp only [rotIdentityDeriveKeypair, Option.bind_eq_bind, Option.bind_eq_some_iff] at derived
  obtain ⟨_, _, maskEccHash, hashed, skA, sampled, pkA, multiplied, _, _, same⟩ := derived
  obtain rfl := Option.some.inj same
  exact ⟨maskEccHash, hashed, sampled, multiplied⟩

/-- Two derivations from the same response and the same blobs give the same key pair, with
the private key in range. -/
theorem derived_agree {first second : Mbedtls} (agree : Agree first second) {nvs : Nvs}
    {pufResponse : Bytes} {keyPair other : Nat × Bytes}
    (derived : rotIdentityDeriveKeypair first nvs pufResponse = some keyPair)
    (again : rotIdentityDeriveKeypair second nvs pufResponse = some other) :
    keyPair = other ∧ 1 ≤ keyPair.1 ∧ keyPair.1 < groupOrder := by
  obtain ⟨hash, hashed, sampled, multiplied⟩ := rotIdentityDeriveKeypair_inv derived
  obtain ⟨hashAgain, hashedAgain, sampledAgain, multipliedAgain⟩ :=
    rotIdentityDeriveKeypair_inv again
  have sameHash : getMaskEccHash first nvs = getMaskEccHash second nvs := by
    simp only [getMaskEccHash, agree.sha256]
  obtain rfl : hash = hashAgain :=
    Option.some.inj (hashed.symm.trans (sameHash.trans hashedAgain))
  have sameScalar := sampleScalar_agree agree sampled sampledAgain
  rw [← sameScalar] at multipliedAgain
  exact ⟨Prod.ext sameScalar (agree.ecpMul _ _ _ multiplied multipliedAgain),
    sampleScalar_range sampled⟩

/-! ### Both paths -/

/-- With 64 stable bits in both arrays there is something to select. -/
theorem derivable_stable {pufFreqRtc pufFreqSleep : List Nat} (rtc : 64 ≤ stableCount pufFreqRtc)
    (sleep : 64 ≤ stableCount pufFreqSleep) : Derivable pufFreqRtc pufFreqSleep := by
  refine .inl ?_
  rw [helperBits]
  omega

/-- After provisioning from two arrays of counts, a store that keeps the blobs is recoverable. -/
theorem recoverable_provisioned {pufFreqRtc pufFreqSleep : List Nat}
    (rtcSize : pufFreqRtc.length = pufMemorySize * 8)
    (sleepSize : pufFreqSleep.length = pufMemorySize * 8)
    (rtcStable : 64 ≤ stableCount pufFreqRtc) (sleepStable : 64 ≤ stableCount pufFreqSleep)
    {start nvs : Nvs} {memory : Memory}
    (kept : ∀ key, key ≠ .pufFrequency →
      nvs key = (provisionPufHelper pufFreqRtc pufFreqSleep start memory).store start key) :
    Recoverable nvs pufFreqRtc pufFreqSleep := by
  have derivable := derivable_stable rtcStable sleepStable
  have stored := provisionPufHelper_run rtcSize sleepSize start memory
  rw [if_pos derivable] at stored
  rw [stored] at kept
  exact ⟨rtcSize, sleepSize, derivable, (holds_storeAll _ start).congr kept⟩

/-- For all counts with 64 stable bits in both arrays, provisioned by the code, and all
measurements of either path within three errors in every byte of its reference: both paths
give the one enrolled response, and the key pairs derived from it are equal, with the private
key in range. -/
theorem stable_identity {pufFreqRtc pufFreqSleep : List Nat}
    (rtcSize : pufFreqRtc.length = pufMemorySize * 8)
    (sleepSize : pufFreqSleep.length = pufMemorySize * 8)
    (rtcStable : 64 ≤ stableCount pufFreqRtc) (sleepStable : 64 ≤ stableCount pufFreqSleep)
    {start nvs : Nvs} {provisioning : Memory}
    (kept : ∀ key, key ≠ .pufFrequency →
      nvs key = (provisionPufHelper pufFreqRtc pufFreqSleep start provisioning).store start key) :
    let bits := helperBits pufFreqRtc pufFreqSleep
    let enrolled := packBytes ((maskedReference pufFreqSleep bits).map highestBit)
    (∀ inputs memory, Near (maskedPuf pufFreqRtc bits inputs.responseSram)
        (maskedReference pufFreqRtc bits) →
      reconstruct .pufMask .eccData inputs.responseSram nvs memory =
          ⟨[], memory.respond enrolled, .returned ()⟩ ∧
        (getPufResponse inputs nvs memory).outcome = .returned (hwOk inputs.responseSram) ∧
        (hwOk inputs.responseSram = true →
          response (getPufResponse inputs nvs memory).memory = some enrolled)) ∧
    (∀ inputs memory, memory.state = .pufResponseReset →
      Near (maskedPuf pufFreqSleep bits inputs.pufBuffer) (maskedReference pufFreqSleep bits) →
      reconstruct .pufSleepMask .eccSleepData inputs.pufBuffer nvs memory =
          ⟨[], memory.respond enrolled, .returned ()⟩ ∧
        (pufResponseResetCalculate inputs nvs memory).outcome = .returned () ∧
        ((pufResponseResetCalculate inputs nvs memory).memory.pufState = .responseReady →
          response (pufResponseResetCalculate inputs nvs memory).memory = some enrolled)) ∧
    ∀ first second, Agree first second → ∀ keyPair other,
      rotIdentityDeriveKeypair first nvs enrolled = some keyPair →
      rotIdentityDeriveKeypair second nvs enrolled = some other →
      keyPair = other ∧ 1 ≤ keyPair.1 ∧ keyPair.1 < groupOrder := by
  intro bits enrolled
  have recoverable := recoverable_provisioned rtcSize sleepSize rtcStable sleepStable kept
  refine ⟨fun inputs memory near => ?_, fun inputs memory retrying near => ?_,
    fun first second agree keyPair other => derived_agree agree⟩
  · have ran := reconstruct_rtc recoverable near memory
    have answered := getPufResponse_reconstructed ran
    refine ⟨ran, ?_, fun passed => ?_⟩
    · rw [answered]
      cases hwOk inputs.responseSram <;> rfl
    · rw [answered, if_pos passed]
      exact response_respond memory enrolled memory.state .responseReady
  · have ran := reconstruct_sleep recoverable near memory
    have answered := pufResponseResetCalculate_reconstructed retrying ran
    refine ⟨ran, ?_, ?_⟩
    · rw [answered]
      cases hwOk inputs.pufBuffer <;> rfl
    · rw [answered]
      cases passed : hwOk inputs.pufBuffer with
      | true => exact fun _ => response_respond memory enrolled .none .responseReady
      | false => exact fun ready => nomatch ready

/-! ### A node whose bits are all stable ones -/

/-- Twenty ones counted for every bit. -/
def onesFreq : List Nat := List.replicate (pufMemorySize * 8) 20

theorem onesFreq_stable : stableCount onesFreq = pufMemorySize * 8 := by
  rw [stableCount, onesFreq, List.map_replicate, show stableBit 20 = true by decide,
    List.count_replicate_self]

/-- What provisioning leaves in an empty store. -/
def onesNvs : Nvs := (provisionPufHelper onesFreq onesFreq Nvs.blank {}).store Nvs.blank

theorem readBits_ones : readBits onesBoot.inputs.pufBuffer.bytes =
    List.replicate (pufMemorySize * 8) true := by
  refine List.eq_replicate_iff.mpr ⟨readBits_sram _, fun bit member => ?_⟩
  obtain ⟨bitNum, inside, rfl⟩ := List.mem_map.mp member
  have bounded := List.mem_range.mp inside
  rw [onesBoot.inputs.pufBuffer.size] at bounded
  have places : ∀ place < 8, getBit 0xFF place = true := by decide
  have byte : onesBoot.inputs.pufBuffer.bytes.getD (bitNum / 8) 0 = 0xFF := by
    rw [show onesBoot.inputs.pufBuffer.bytes = List.replicate pufMemorySize 0xFF from rfl,
      List.getD_eq_getElem?_getD, List.getElem?_replicate_of_lt (by omega), Option.getD_some]
  rw [arrayGetBit, byte]
  exact places _ (Nat.mod_lt _ (by decide))

theorem differing_self (byte : UInt8) : differing byte byte = 0 := by
  simp [differing]

/-- The measurement of ones is the reference itself. -/
theorem near_ones (bits : Nat) :
    Near (maskedPuf onesFreq bits onesBoot.inputs.pufBuffer) (maskedReference onesFreq bits) := by
  have same : maskedPuf onesFreq bits onesBoot.inputs.pufBuffer = maskedReference onesFreq bits := by
    have reference : (List.replicate (pufMemorySize * 8) 20).map referenceBit =
        List.replicate (pufMemorySize * 8) true := List.map_replicate ..
    rw [maskedPuf, maskedReference, readBits_ones, onesFreq, reference]
  rw [same]
  exact List.forall₂_same.mpr fun byte _ => by rw [differing_self]; decide

/-- A library that expands everything to the number one. -/
def oneLibrary : Mbedtls where
  ecpGroupLoad := true
  sha256 := fun _ => List.replicate 32 0
  hkdf := fun _ _ _ => some (List.replicate 31 0 ++ [1])
  mpiReadBinary := fun okm => some (okm.foldl (fun number byte => number * 256 + byte.toNat) 0)
  ecpMul := fun _ => some (List.replicate 65 4)

theorem oneLibrary_agrees : Agree oneLibrary oneLibrary where
  sha256 := fun _ => rfl
  hkdf := fun _ _ _ _ _ expanded again => Option.some.inj (expanded.symm.trans again)
  mpiReadBinary := fun _ => rfl
  ecpMul := fun _ _ _ multiplied again => Option.some.inj (multiplied.symm.trans again)

/-- Both paths give this node one response, and every derivation one key pair. -/
theorem ones_stable_identity :
    response (getPufResponse onesBoot.inputs onesNvs {}).memory =
        response (pufResponseResetCalculate onesBoot.inputs onesNvs
          { state := .pufResponseReset }).memory ∧
      ∃ keyPair, rotIdentityDeriveKeypair oneLibrary onesNvs
        (enrolledResponse onesFreq onesFreq) = some keyPair ∧ 1 ≤ keyPair.1 := by
  have size : onesFreq.length = pufMemorySize * 8 := List.length_replicate
  have stable : 64 ≤ stableCount onesFreq := by
    rw [onesFreq_stable]
    decide
  have passed : hwOk onesBoot.inputs.pufBuffer = true := ones_accepted rfl
  obtain ⟨rtc, sleep, keys⟩ := @stable_identity onesFreq onesFreq size size stable stable Nvs.blank
    onesNvs {} fun _ _ => rfl
  obtain ⟨_, _, fromRtc⟩ := rtc onesBoot.inputs {} (near_ones _)
  obtain ⟨ran, _, fromSleep⟩ := sleep onesBoot.inputs { state := .pufResponseReset } rfl
    (near_ones _)
  have ready := pufResponseResetCalculate_reconstructed
    (show Retrying { state := .pufResponseReset } from rfl) ran
  rw [if_pos passed] at ready
  refine ⟨(fromRtc passed).trans (fromSleep (by rw [ready])).symm, ?_⟩
  have holds := (@recoverable_provisioned onesFreq onesFreq size size stable stable Nvs.blank
    onesNvs {} fun _ _ => rfl).holds
  have hashed : getMaskEccHash oneLibrary onesNvs = some (List.replicate 32 0) := by
    simp [getMaskEccHash, holds.pufMask, holds.eccData, holds.pufSleepMask, holds.eccSleepData,
      oneLibrary]
  have number : oneLibrary.mpiReadBinary (List.replicate 31 0 ++ [1]) = some 1 := by decide
  have inRange : 0 < 1 ∧ 1 < groupOrder := by decide
  have sampled (pufResponse maskEccHash : Bytes) :
      sampleScalar oneLibrary pufResponse maskEccHash 8 0 = some 1 := by
    rw [sampleScalar, show oneLibrary.hkdf salt pufResponse _ = some (List.replicate 31 0 ++ [1])
      from rfl]
    dsimp only
    rw [number]
    exact if_pos inRange
  have derived : rotIdentityDeriveKeypair oneLibrary onesNvs (enrolledResponse onesFreq onesFreq) =
      some (1, List.replicate 65 4) := by
    rw [rotIdentityDeriveKeypair, hashed]
    dsimp only [Option.bind_eq_bind, Option.bind_some]
    rw [sampled]
    rfl
  exact ⟨_, derived, (keys oneLibrary oneLibrary oneLibrary_agrees _ _ derived derived).2.1⟩

end Microgrid.StableIdentity
