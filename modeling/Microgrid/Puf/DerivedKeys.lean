import Microgrid.Puf.CounterErasure
import Microgrid.Puf.Tolerance

/-!
# The key pairs that a node derives

`app_main` derives its key pair in two places: for the provisioning export, as long as no server
reference is pinned, and inside the handshake afterwards. Either time it asks for the response,
derives, and releases the response. A boot comes to a response over one of two paths, perhaps
after retries in boots before it, and may have completed the enrollment just then.

Within what the response bits stand, none of this shows: every boot that derives a key pair
derives the same one.
-/

namespace Microgrid.AppMain

open CrashPrograms Puf Puflib RotIdentity StableIdentity

/-! ### What a boot derives -/

/-- `rot_identity_derive_keypair` on a response that was handed out. -/
def deriveHanded (mbedtls : Mbedtls) (nvs : Nvs) (memory : Memory) (pufResponse : Option Nat)
    (pufLen : Nat) : Option (Nat × Bytes) := do
  let pointer ← pufResponse
  let buffer ← memory.buffers[pointer]?
  rotIdentityDeriveKeypair mbedtls nvs (buffer.take pufLen)

/-- `app_main` once a response is needed, with the key pair that is derived from it, where
`Boot.keypair` says only whether there is one. -/
def useKeypair (mbedtls : Mbedtls) (boot : Boot) : FirmwareM (Option (Nat × Bytes)) := do
  let response ← rotIdentityGetPufResponse boot.inputs
  match response with
  | none => pure none
  | some (pufResponse, pufLen) =>
    let nvs ← Program.load
    let memory ← Program.inspect
    cleanPufResponse
    pure (deriveHanded mbedtls nvs memory pufResponse pufLen)

/-- `app_main` after the enrollment step. -/
def keypairEnrolled (mbedtls : Mbedtls) (boot : Boot) (enrolled : Bool) :
    FirmwareM (Option (Nat × Bytes)) :=
  if !enrolled then pure none
  else if !boot.serverRef then useKeypair mbedtls boot
  else if !boot.wifi then pure none
  else if !boot.socket then pure none
  else useKeypair mbedtls boot

/-- `app_main`, with the key pair it derives. -/
def appMainKeypair (mbedtls : Mbedtls) (boot : Boot) : FirmwareM (Option (Nat × Bytes)) := do
  let enrolled ← rotIdentityRunEnrollmentStep boot.inputs
  keypairEnrolled mbedtls boot enrolled

/-- Deriving changes nothing of what `app_main` does. -/
theorem appMainKeypair_forgets (mbedtls : Mbedtls) (boot : Boot) :
    (appMainKeypair mbedtls boot >>= fun _ => pure ()) = appMain boot := by
  have used : (useKeypair mbedtls boot >>= fun _ => pure ()) = useResponse boot := by
    rw [useKeypair, useResponse, Program.bind_assoc]
    congr 1
    funext response
    cases response <;> rfl
  rw [appMainKeypair, appMain, Program.bind_assoc]
  congr 1
  funext enrolled
  rw [keypairEnrolled, appMainEnrolled_eq, ← used]
  cases enrolled <;> cases boot.serverRef <;> cases boot.wifi <;> cases boot.socket <;> rfl

/-- The boot loses power after everything it writes, if at all. -/
def WritesAll (machine : Machine Nvs Memory) (boot : Boot) : Prop :=
  ∀ count, boot.powerLoss = some count → (node.result boot machine).stores.length ≤ count

/-- The boot derives this key pair. Power that fails later does not undo it. -/
structure Derives (mbedtls : Mbedtls) (history : List Boot) (boot : Boot)
    (keyPair : Nat × Bytes) : Prop where
  writes : WritesAll (after history) boot
  returned : (appMainKeypair mbedtls boot (after history).store
    (node.memoryAt boot (after history))).outcome = .returned (some keyPair)

/-- A boot that writes all it can leaves the store of its last operation. -/
theorem WritesAll.store {machine : Machine Nvs Memory} {boot : Boot}
    (writes : WritesAll machine boot) :
    (node.cycle machine boot).store = (node.result boot machine).stores.getLastD machine.store := by
  cases lost : boot.powerLoss with
  | none => rw [node.cycle_powered (show node.powerLoss boot = none from lost), Result.store]
  | some count =>
    rw [node.cycle_powerLoss (show node.powerLoss boot = some count from lost), Result.storeAfter,
      List.take_of_length_le (writes count lost)]

/-- What is derived comes with a boot that returns. -/
theorem Derives.ran {mbedtls : Mbedtls} {history : List Boot} {boot : Boot} {keyPair : Nat × Bytes}
    (derives : Derives mbedtls history boot keyPair) :
    (node.result boot (after history)).outcome = .returned () := by
  have same : node.result boot (after history) = (appMainKeypair mbedtls boot >>= fun _ => pure ())
      (after history).store (node.memoryAt boot (after history)) := by
    rw [appMainKeypair_forgets]
    rfl
  have returned := derives.returned
  rcases ran : appMainKeypair mbedtls boot (after history).store
    (node.memoryAt boot (after history)) with ⟨stores, memory, outcome⟩
  rw [ran] at returned
  obtain rfl : outcome = .returned (some keyPair) := returned
  rw [same, Program.bind_returned ran _ rfl]
  rfl

/-! ### Where a response comes from -/

/-- The response of a boot, from its own measurement of the RTC memory, or from that of the deep
sleep it wakes up from to retry. -/
inductive ResponseOf (pufFreqRtc pufFreqSleep : List Nat) (machine : Machine Nvs Memory)
    (boot : Boot) (bytes : Bytes) : Prop where
  | rtc (passed : hwOk boot.inputs.responseSram = true) {errors : ℕ}
      (corrected : correctData (maskedPuf pufFreqRtc (helperBits pufFreqRtc pufFreqSleep)
        boot.inputs.responseSram) (helperData pufFreqRtc pufFreqSleep).eccData
          ((helperData pufFreqRtc pufFreqSleep).eccData.length / 8) = some (bytes, errors))
  | sleep (retry : WakesToRetry machine boot) (passed : hwOk boot.inputs.pufBuffer = true)
      {errors : ℕ}
      (corrected : correctData (maskedPuf pufFreqSleep (helperBits pufFreqRtc pufFreqSleep)
        boot.inputs.pufBuffer) (helperData pufFreqRtc pufFreqSleep).eccSleepData
          ((helperData pufFreqRtc pufFreqSleep).eccSleepData.length / 8) = some (bytes, errors))

/-- A response that is ready to be handed out. -/
structure Ready (memory : Memory) (bytes : Bytes) : Prop where
  state : memory.pufState = .responseReady
  response : response memory = some bytes
  len : memory.pufResponseLen = bytes.length

/-- A response that was put behind the buffers is ready. -/
theorem ready_respond (memory : Memory) (bytes : Bytes) (state : State) (retries : ℕ) :
    Ready { memory.respond bytes with
      state := state, pufState := .responseReady, pufResetRetryCount := retries } bytes where
  state := rfl
  response := List.getElem?_concat_length ..
  len := rfl

/-- What is derived from a response that is ready. -/
theorem Ready.derives {memory : Memory} {bytes : Bytes} (ready : Ready memory bytes)
    (mbedtls : Mbedtls) (nvs : Nvs) :
    deriveHanded mbedtls nvs memory memory.pufResponse memory.pufResponseLen =
      rotIdentityDeriveKeypair mbedtls nvs bytes := by
  have found := ready.response
  rw [StableIdentity.response] at found
  rw [deriveHanded, ready.len]
  cases pointer : memory.pufResponse with
  | none =>
    rw [pointer] at found
    cases found
  | some place =>
    rw [pointer, Option.bind_some] at found
    simp only [Option.bind_eq_bind, Option.bind_some, found, List.take_length]

section Requests

variable {nvs : Nvs} {pufFreqRtc pufFreqSleep : List Nat}
  (recoverable : Recoverable nvs pufFreqRtc pufFreqSleep)

include recoverable

/-- The enrollment step of an enrolled node leaves no response, or the one of its retry. -/
theorem step_ready {machine : Machine Nvs Memory} (same : machine.store = nvs) {boot : Boot}
    (why : node.woken boot machine = none ∨ WakesToRetry machine boot)
    (settled : Settled machine) :
    ∃ memory, rotIdentityRunEnrollmentStep boot.inputs machine.store (node.memoryAt boot machine) =
        ⟨[], memory, .returned true⟩ ∧
      (Released memory ∨ ∃ bytes, ResponseOf pufFreqRtc pufFreqSleep machine boot bytes ∧
        Ready memory bytes) := by
  subst same
  obtain ⟨memory, step, prepared, -⟩ := step_rests recoverable why settled
  cases prepared with
  | released released unready => exact ⟨memory, step, .inl released⟩
  | live live retry passed =>
    obtain ⟨bytes, errors, corrected, -, reconstructed⟩ :=
      reconstruct_run recoverable.fittingSleep boot.inputs.pufBuffer (node.memoryAt boot machine)
    have ran := pufResponseResetCalculate_reconstructed retry.state reconstructed
    rw [if_pos passed] at ran
    have init : puflibInit boot.inputs machine.store (node.memoryAt boot machine) =
        pufResponseResetCalculate boot.inputs machine.store (node.memoryAt boot machine) := by
      rw [puflibInit, Program.inspect_bind, retry.state]
    refine ⟨_, step_resumes (init.trans ran) recoverable.isEnrolled, .inr ⟨bytes, ?_, ?_⟩⟩
    · exact .sleep retry passed corrected
    · exact ready_respond _ _ _ _

/-- A request that hands out a response hands out the one that was ready, or that of its own
measurement. -/
theorem request_ready {machine : Machine Nvs Memory} {boot : Boot} {memory after : Memory}
    {stores : List Nvs} {pufResponse : Option Nat} {pufLen : Nat}
    (before : Released memory ∨ ∃ bytes, ResponseOf pufFreqRtc pufFreqSleep machine boot bytes ∧
      Ready memory bytes)
    (handed : rotIdentityGetPufResponse boot.inputs nvs memory =
      ⟨stores, after, .returned (some (pufResponse, pufLen))⟩) :
    stores = [] ∧ pufResponse = after.pufResponse ∧ pufLen = after.pufResponseLen ∧
      ∃ bytes, ResponseOf pufFreqRtc pufFreqSleep machine boot bytes ∧ Ready after bytes := by
  have enrolled := recoverable.isEnrolled
  rcases before with released | ⟨bytes, origin, ready⟩
  · obtain ⟨bytes, errors, corrected, -, reconstructed⟩ :=
      reconstruct_run recoverable.fittingRtc boot.inputs.responseSram memory
    have ran := getPufResponse_reconstructed reconstructed
    by_cases passed : hwOk boot.inputs.responseSram = true
    · rw [if_pos passed] at ran
      rw [request_measured enrolled released.state ran] at handed
      cases handed
      have ready := ready_respond memory bytes memory.state 0
      exact ⟨rfl, rfl, rfl, bytes, .rtc passed corrected, ready⟩
    · rw [if_neg passed] at ran
      have responded := live_respond released bytes memory.state
      cases @request_rejected nvs enrolled boot.inputs bytes.length _ _ released ran responded.cleaned
          rfl with
      | gives handsOut live request =>
        rcases handsOut with live | weighed
        · exact absurd released (not_released_of_live live)
        · exact absurd weighed passed
      | fails spent released request =>
        rw [request] at handed
        cases handed
      | resets before released retrying counted bounded request =>
        rw [request] at handed
        cases handed
  · rw [request_answered enrolled boot.inputs ready.state] at handed
    cases handed
    exact ⟨rfl, rfl, rfl, bytes, origin, ⟨ready.state, ready.response, ready.len⟩⟩

/-- A key pair is derived from the response of the boot. -/
theorem useKeypair_ready {mbedtls : Mbedtls} {machine : Machine Nvs Memory} {boot : Boot}
    {memory : Memory} {keyPair : Nat × Bytes}
    (before : Released memory ∨ ∃ bytes, ResponseOf pufFreqRtc pufFreqSleep machine boot bytes ∧
      Ready memory bytes)
    (returned : (useKeypair mbedtls boot nvs memory).outcome = .returned (some keyPair)) :
    ∃ bytes, ResponseOf pufFreqRtc pufFreqSleep machine boot bytes ∧
      rotIdentityDeriveKeypair mbedtls nvs bytes = some keyPair := by
  rw [useKeypair] at returned
  rcases request : rotIdentityGetPufResponse boot.inputs nvs memory with
    ⟨stores, after, handed | _ | _⟩
  · rw [Program.bind_returned request _ rfl] at returned
    cases handed with
    | none => cases returned
    | some handed =>
      obtain ⟨pufResponse, pufLen⟩ := handed
      obtain ⟨rfl, rfl, rfl, bytes, origin, ready⟩ := request_ready recoverable before request
      refine ⟨bytes, origin, ?_⟩
      rw [← ready.derives]
      exact Outcome.returned.inj returned
  · rw [Program.bind_slept request] at returned
    cases returned
  · rw [Program.bind_aborted request] at returned
    cases returned

end Requests

/-- Only where it needs a response does the rest of `app_main` derive anything. -/
theorem keypairEnrolled_returned {mbedtls : Mbedtls} {boot : Boot} {nvs : Nvs} {memory : Memory}
    {keyPair : Nat × Bytes}
    (returned : (keypairEnrolled mbedtls boot true nvs memory).outcome = .returned (some keyPair)) :
    (useKeypair mbedtls boot nvs memory).outcome = .returned (some keyPair) := by
  unfold keypairEnrolled at returned
  cases pinned : boot.serverRef with
  | false =>
    rw [pinned] at returned
    exact returned
  | true =>
    cases wifi : boot.wifi with
    | false =>
      rw [pinned, wifi] at returned
      cases returned
    | true =>
      cases socket : boot.socket with
      | false =>
        rw [pinned, wifi, socket] at returned
        cases returned
      | true =>
        rw [pinned, wifi, socket] at returned
        exact returned

/-- A node that derives a key pair is enrolled. -/
theorem Derives.enrolled {mbedtls : Mbedtls} {history : List Boot} {boot : Boot}
    {keyPair : Nat × Bytes} (derives : Derives mbedtls history boot keyPair) :
    isEnrolled (after (history ++ [boot])).store = true := by
  have ended := derives.ran
  rw [after_boot, derives.writes.store]
  cases boot_cases history boot (consistent_after history).dormant with
  | begins fresh idle ran =>
    rw [ran] at ended
    cases ended
  | samples boots run sample counted fresh early ran =>
    rw [ran] at ended
    cases ended
  | stops boots run sample counted fresh last underivable ran =>
    rw [ran] at ended
    cases ended
  | completes boots run sample counted fresh last derivable step =>
    rw [(result_returned step).1]
    exact step_reports step
  | rests enrolled why silent dreams =>
    rw [silent]
    exact enrolled

/-- A boot that leaves the node enrolled has come past the enrollment step, with blobs in place
and no response but that of a retry.

Split along `boot_cases`: only a boot that completes the enrollment, or finds it, does. -/
theorem enrolled_step {history : List Boot} {boot : Boot} (writes : WritesAll (after history) boot)
    (enrolled : isEnrolled (after (history ++ [boot])).store = true)
    {pufFreqRtc pufFreqSleep : List Nat}
    (recoverable : Recoverable (after (history ++ [boot])).store pufFreqRtc pufFreqSleep) :
    ∃ stores memory, rotIdentityRunEnrollmentStep boot.inputs (after history).store
        (node.memoryAt boot (after history)) = ⟨stores, memory, .returned true⟩ ∧
      stores.getLastD (after history).store = (after (history ++ [boot])).store ∧
      (Released memory ∨ ∃ bytes, ResponseOf pufFreqRtc pufFreqSleep (after history) boot bytes ∧
        Ready memory bytes) := by
  have settled := settled_after history
  have consistent := consistent_after history
  have unenrolled : (after history).store .eccData = none →
      (∀ store ∈ (node.result boot (after history)).stores, store .eccData = none) → False := by
    intro unwritten silent
    have still := cycle_unwritten unwritten silent
    rw [← after_boot] at still
    rw [isEnrolled_unwritten still] at enrolled
    cases enrolled
  cases boot_cases history boot consistent.dormant with
  | begins fresh idle ran =>
    refine (unenrolled (consistent.unwritten fresh) ?_).elim
    rw [ran]
    exact count_unwritten (consistent.unwritten fresh)
  | samples boots run sample counted fresh early ran =>
    refine (unenrolled (consistent.unwritten fresh) ?_).elim
    rw [ran]
    exact count_unwritten (consistent.unwritten fresh)
  | stops boots run sample counted fresh last underivable ran =>
    refine (unenrolled (consistent.unwritten fresh) ?_).elim
    rw [ran]
    exact lastStores_unwritten (consistent.unwritten fresh)
  | completes boots run sample counted fresh last derivable step =>
    refine ⟨_, _, step, ?_, .inl { started_released settled boot with }⟩
    rw [after_boot, writes.store, (result_returned step).1]
  | rests before why silent dreams =>
    have same : (after history).store = (after (history ++ [boot])).store := by
      rw [after_boot, writes.store, silent, List.getLastD_nil]
    obtain ⟨memory, step, response⟩ := step_ready recoverable same why settled
    exact ⟨[], memory, step, same, response⟩

/-- The key pair of a boot is derived from a response of this boot, with the blobs that the boot
leaves. -/
theorem Derives.response {mbedtls : Mbedtls} {history : List Boot} {boot : Boot}
    {keyPair : Nat × Bytes} (derives : Derives mbedtls history boot keyPair)
    {pufFreqRtc pufFreqSleep : List Nat}
    (recoverable : Recoverable (after (history ++ [boot])).store pufFreqRtc pufFreqSleep) :
    ∃ bytes, ResponseOf pufFreqRtc pufFreqSleep (after history) boot bytes ∧
      rotIdentityDeriveKeypair mbedtls (after (history ++ [boot])).store bytes = some keyPair := by
  obtain ⟨stores, memory, step, left, before⟩ :=
    enrolled_step derives.writes derives.enrolled recoverable
  have returned := derives.returned
  rw [appMainKeypair, Program.bind_returned step _ rfl] at returned
  rw [← left] at recoverable ⊢
  exact useKeypair_ready recoverable before (keypairEnrolled_returned returned)

/-- An enrolled node that needs a response, and whose measurement passes the check, comes to
derive: only the library can fail. -/
theorem derives_measured (mbedtls : Mbedtls) {history : List Boot} {boot : Boot}
    (powered : boot.powerLoss = none)
    (enrolled : isEnrolled (after (history ++ [boot])).store = true)
    (asks : ¬ (boot.serverRef = true ∧ (boot.wifi && boot.socket) = false))
    (passed : hwOk boot.inputs.responseSram = true) :
    ∃ bytes, ∀ keyPair, rotIdentityDeriveKeypair mbedtls (after (history ++ [boot])).store bytes =
      some keyPair → Derives mbedtls history boot keyPair := by
  have writes : WritesAll (after history) boot := by
    intro count lost
    rw [powered] at lost
    cases lost
  obtain ⟨pufFreqRtc, pufFreqSleep, recoverable⟩ := recoverable_after enrolled
  obtain ⟨stores, memory, step, left, response⟩ := enrolled_step writes enrolled recoverable
  have request : ∃ after bytes, Ready after bytes ∧ rotIdentityGetPufResponse boot.inputs
      (stores.getLastD (AppMain.after history).store) memory =
        ⟨[], after, .returned (some (after.pufResponse, after.pufResponseLen))⟩ := by
    rw [← left] at enrolled recoverable
    rcases response with released | ⟨bytes, -, ready⟩
    · obtain ⟨bytes, errors, corrected, -, reconstructed⟩ :=
        reconstruct_run recoverable.fittingRtc boot.inputs.responseSram memory
      have ran := getPufResponse_reconstructed reconstructed
      rw [if_pos passed] at ran
      exact ⟨_, bytes, ready_respond memory bytes memory.state 0,
        request_measured enrolled released.state ran⟩
    · exact ⟨{ memory with pufResetRetryCount := 0 }, bytes,
        ⟨ready.state, ready.response, ready.len⟩,
        request_answered enrolled boot.inputs ready.state⟩
  obtain ⟨handing, bytes, ready, handed⟩ := request
  refine ⟨bytes, fun keyPair derived => ⟨writes, ?_⟩⟩
  have used : keypairEnrolled mbedtls boot true = useKeypair mbedtls boot := by
    rw [keypairEnrolled]
    cases pinned : boot.serverRef <;> cases wifi : boot.wifi <;> cases socket : boot.socket <;>
      first | rfl | exact absurd ⟨pinned, by rw [wifi, socket]; rfl⟩ asks
  rw [appMainKeypair, Program.bind_returned step _ rfl, used, useKeypair,
    Program.bind_returned handed _ rfl]
  show Outcome.returned (deriveHanded mbedtls (stores.getLastD (after history).store) handing
    handing.pufResponse handing.pufResponseLen) = _
  rw [ready.derives, left, derived]

/-! ### One key pair -/

/-- What the boot measures is within what the bits of the enrolled response stand, as far as it
passes the check of its weight. -/
structure Tolerated (pufFreqRtc pufFreqSleep : List Nat) (boot : Boot) : Prop where
  rtc : hwOk boot.inputs.responseSram = true →
    Within (maskedPuf pufFreqRtc (helperBits pufFreqRtc pufFreqSleep) boot.inputs.responseSram)
      (maskedReference pufFreqRtc (helperBits pufFreqRtc pufFreqSleep))
      (maskedReference pufFreqSleep (helperBits pufFreqRtc pufFreqSleep))
  sleep : hwOk boot.inputs.pufBuffer = true →
    Within (maskedPuf pufFreqSleep (helperBits pufFreqRtc pufFreqSleep) boot.inputs.pufBuffer)
      (maskedReference pufFreqSleep (helperBits pufFreqRtc pufFreqSleep))
      (maskedReference pufFreqSleep (helperBits pufFreqRtc pufFreqSleep))

/-- A path with a tolerated measurement comes to the enrolled response. -/
theorem corrected_tolerated {maskKey eccKey : Key} {nvs : Nvs} {pufFreq pufFreqSleep : List Nat}
    {bits : Nat} (fitting : Fitting maskKey eccKey nvs pufFreq bits
      (generateEccDataTemplate (maskedReference pufFreq bits) (maskedReference pufFreqSleep bits)))
    (fewSleep : bits ≤ stableCount pufFreqSleep) {sram : Sram}
    (within : Within (maskedPuf pufFreq bits sram) (maskedReference pufFreq bits)
      (maskedReference pufFreqSleep bits)) {bytes : Bytes} {errors : ℕ}
    (corrected : correctData (maskedPuf pufFreq bits sram)
      (generateEccDataTemplate (maskedReference pufFreq bits) (maskedReference pufFreqSleep bits))
      ((generateEccDataTemplate (maskedReference pufFreq bits)
        (maskedReference pufFreqSleep bits)).length / 8) = some (bytes, errors)) :
    bytes = packBytes ((maskedReference pufFreqSleep bits).map highestBit) := by
  have whole := fitting.whole
  have template := maskedReference_length fewSleep
  have reference := maskedReference_length fitting.few
  have measured := (fitting.masked sram).2
  rw [fitting.eccLength] at measured
  obtain ⟨response, counted, expected, exactly, -⟩ := correctData_within
    (reference.trans template.symm) (measured.trans template.symm) (by rw [template]; omega)
  obtain ⟨rfl, rfl⟩ := Prod.mk.inj (Option.some.inj (corrected.symm.trans expected))
  exact exactly.mpr within

/-- Either path does. -/
theorem ResponseOf.enrolled {nvs : Nvs} {pufFreqRtc pufFreqSleep : List Nat}
    (recoverable : Recoverable nvs pufFreqRtc pufFreqSleep) {machine : Machine Nvs Memory}
    {boot : Boot} (tolerated : Tolerated pufFreqRtc pufFreqSleep boot) {bytes : Bytes}
    (origin : ResponseOf pufFreqRtc pufFreqSleep machine boot bytes) :
    bytes = enrolledResponse pufFreqRtc pufFreqSleep := by
  obtain ⟨-, fewSleep⟩ := helperBits_le pufFreqRtc pufFreqSleep
  cases origin with
  | rtc passed corrected =>
    exact corrected_tolerated recoverable.fittingRtc fewSleep (tolerated.rtc passed) corrected
  | sleep retry passed corrected =>
    have templated : (helperData pufFreqRtc pufFreqSleep).eccSleepData = _ := generateEccData_eq _
    have fitting := recoverable.fittingSleep
    rw [templated] at fitting corrected
    exact corrected_tolerated fitting fewSleep (tolerated.sleep passed) corrected

/-- A boot that derives a key pair derives it from the enrolled response. -/
theorem Derives.tolerated {mbedtls : Mbedtls} {history : List Boot} {boot : Boot}
    {keyPair : Nat × Bytes} (derives : Derives mbedtls history boot keyPair)
    {pufFreqRtc pufFreqSleep : List Nat}
    (recoverable : Recoverable (after (history ++ [boot])).store pufFreqRtc pufFreqSleep)
    (tolerated : Tolerated pufFreqRtc pufFreqSleep boot) :
    rotIdentityDeriveKeypair mbedtls (after (history ++ [boot])).store
      (enrolledResponse pufFreqRtc pufFreqSleep) = some keyPair := by
  obtain ⟨bytes, origin, derived⟩ := derives.response recoverable
  rw [origin.enrolled recoverable tolerated] at derived
  exact derived

/-- A later one does so with the blobs of the earlier one. -/
theorem Derives.later {mbedtls : Mbedtls} {history later : List Boot} {boot other : Boot}
    {keyPair : Nat × Bytes} (derives : Derives mbedtls (history ++ boot :: later) other keyPair)
    (enrolled : isEnrolled (after (history ++ [boot])).store = true)
    {pufFreqRtc pufFreqSleep : List Nat}
    (recoverable : Recoverable (after (history ++ [boot])).store pufFreqRtc pufFreqSleep)
    (tolerated : Tolerated pufFreqRtc pufFreqSleep other) :
    rotIdentityDeriveKeypair mbedtls (after (history ++ [boot])).store
      (enrolledResponse pufFreqRtc pufFreqSleep) = some keyPair := by
  have rests := store_rests enrolled (later ++ [other])
  have boots : history ++ [boot] ++ (later ++ [other]) = history ++ boot :: later ++ [other] := by
    rw [List.append_assoc, List.append_assoc, List.singleton_append, List.cons_append]
  rw [boots] at rests
  rw [← rests] at recoverable ⊢
  exact derives.tolerated recoverable tolerated

/-- From the boot on that completes the enrollment: whichever boots derive a key pair, for the
export or for a handshake, over either path, and whatever retries, failed measurements and power
losses lie between them, they derive the same one, as long as what these boots measured is
tolerated. -/
theorem one_key_pair {first second : Mbedtls} (agree : Agree first second)
    {history later : List Boot} {boot other : Boot} {keyPair again : Nat × Bytes}
    (derives : Derives first history boot keyPair)
    (derivesAgain : Derives second (history ++ boot :: later) other again)
    {pufFreqRtc pufFreqSleep : List Nat}
    (recoverable : Recoverable (after (history ++ [boot])).store pufFreqRtc pufFreqSleep)
    (tolerated : Tolerated pufFreqRtc pufFreqSleep boot)
    (toleratedAgain : Tolerated pufFreqRtc pufFreqSleep other) :
    again = keyPair ∧ 1 ≤ keyPair.1 ∧ keyPair.1 < groupOrder := by
  have derived := derives.tolerated recoverable tolerated
  have derivedAgain := derivesAgain.later derives.enrolled recoverable toleratedAgain
  obtain ⟨same, range⟩ := derived_agree agree derived derivedAgain
  exact ⟨same.symm, range⟩

/-! ### A node that measures what it was enrolled with -/

/-- Nothing differs from itself. -/
theorem within_self {reference template : Bytes} (same : reference.length = template.length) :
    Within reference reference template := by
  induction template generalizing reference with
  | nil =>
    rw [List.eq_nil_of_length_eq_zero same]
    exact .nil
  | cons byte template inductionHypothesis =>
    cases reference with
    | nil => cases same
    | cons first reference =>
      refine .cons ?_ (inductionHypothesis (Nat.succ.inj same))
      rw [differing_self]
      exact Nat.zero_le _

/-- A boot that measures samples of the enrollment is tolerated. -/
theorem tolerated_samples {wakes : List Boot} {last boot : Boot}
    (whole : wakes.length + 1 = provisioningMeasurements)
    (rtc : boot.inputs.responseSram ∈ rtcSamples last)
    (sleep : boot.inputs.pufBuffer ∈ samples (wakes ++ [last])) :
    Tolerated (countOnes (rtcSamples last)) (countOnes (samples (wakes ++ [last]))) boot := by
  obtain ⟨few, fewSleep⟩ := helperBits_le (countOnes (rtcSamples last))
    (countOnes (samples (wakes ++ [last])))
  constructor
  · intro _
    rw [maskedPuf_sample (rtcSamples_length last) rtc]
    exact within_self ((maskedReference_length few).trans (maskedReference_length fewSleep).symm)
  · intro _
    rw [maskedPuf_sample (samples_whole whole last) sleep]
    exact within_self rfl

/-- Where every boot was of ones, every boot of ones is tolerated. -/
theorem ones_tolerated {history : List Boot}
    (ones : ∀ boot ∈ history, boot.inputs = onesBoot.inputs)
    (enrolled : isEnrolled (after history).store = true) :
    ∃ pufFreqRtc pufFreqSleep, Recoverable (after history).store pufFreqRtc pufFreqSleep ∧
      ∀ boot : Boot, boot.inputs = onesBoot.inputs → Tolerated pufFreqRtc pufFreqSleep boot := by
  obtain ⟨earlier, start, wakes, last, later, boots, completed, holds⟩ := (enrolled_once _ enrolled).1
  have lastOnes : last.inputs = onesBoot.inputs := ones last (by simp [boots])
  refine ⟨_, _, completed.recoverable holds, fun boot same =>
    tolerated_samples completed.wakes_length ?_ ?_⟩
  · rw [same, rtcSamples, lastOnes]
    exact List.mem_map.mpr ⟨0, by simp [provisioningMeasurements], rfl⟩
  · rw [same, samples_concat, ← lastOnes]
    exact List.mem_append_right _ (List.mem_singleton_self _)

/-- A library whose expansion is constant has a key pair for every response. -/
theorem constant_derives {mbedtls : Mbedtls} (loads : mbedtls.ecpGroupLoad = true) {okm : Bytes}
    (constant : ∀ salt ikm info, mbedtls.hkdf salt ikm info = some okm) {scalar : ℕ}
    (number : mbedtls.mpiReadBinary okm = some scalar) (range : 0 < scalar ∧ scalar < groupOrder)
    {pkA : Bytes} (multiplied : mbedtls.ecpMul scalar = some pkA)
    (size : pkA.length = rotPubkeyLen) {data : HelperData} {nvs : Nvs} (holds : Holds data nvs)
    (bytes : Bytes) : rotIdentityDeriveKeypair mbedtls nvs bytes = some (scalar, pkA) := by
  have hashed : ∃ hash, getMaskEccHash mbedtls nvs = some hash := by
    simp [getMaskEccHash, holds.pufMask, holds.eccData, holds.pufSleepMask, holds.eccSleepData]
  obtain ⟨hash, hashed⟩ := hashed
  have sampled : sampleScalar mbedtls bytes hash 8 0 = some scalar := by
    rw [sampleScalar, constant]
    dsimp only
    rw [number]
    exact if_pos range
  rw [rotIdentityDeriveKeypair, hashed]
  dsimp only [Option.bind_eq_bind, Option.bind_some]
  rw [sampled]
  simp [loads, multiplied, guard, size]

/-- A boot of ones passes the check of its weight. -/
theorem ones_pass : hwOk onesBoot.inputs.responseSram = true := ones_accepted rfl

/-- After the enrollment of ones, every boot of ones is tolerated. -/
theorem ones_measured : ∃ pufFreqRtc pufFreqSleep,
    Recoverable (after (onesBoot :: onesWakes ++ [onesBoot])).store pufFreqRtc pufFreqSleep ∧
      ∀ boot : Boot, boot.inputs = onesBoot.inputs → Tolerated pufFreqRtc pufFreqSleep boot := by
  refine ones_tolerated ?_ ones_enrolled
  intro boot member
  rw [List.cons_append, List.mem_cons, List.mem_append, List.mem_singleton, onesWakes,
    List.mem_replicate] at member
  rcases member with rfl | ⟨-, rfl⟩ | rfl <;> rfl

/-- The boot that completes an enrollment of ones derives the key pair of a later cold start. -/
theorem ones_one_key_pair : ∃ keyPair again,
    Derives oneLibrary (onesBoot :: onesWakes) onesBoot keyPair ∧
      Derives oneLibrary (onesBoot :: onesWakes ++ onesBoot :: []) coldBoot again ∧
      again = keyPair := by
  obtain ⟨pufFreqRtc, pufFreqSleep, recoverable, tolerated⟩ := ones_measured
  have key {nvs : Nvs} (recoverable : Recoverable nvs pufFreqRtc pufFreqSleep) (bytes : Bytes) :
      rotIdentityDeriveKeypair oneLibrary nvs bytes = some (1, List.replicate 65 4) :=
    constant_derives rfl (fun _ _ _ => rfl) (by decide) (by decide) rfl List.length_replicate
      recoverable.holds bytes
  obtain ⟨bytes, derives⟩ := @derives_measured oneLibrary (onesBoot :: onesWakes) onesBoot rfl
    ones_enrolled (by decide) ones_pass
  have rests := store_rests ones_enrolled [coldBoot]
  obtain ⟨bytesAgain, derivesAgain⟩ := @derives_measured oneLibrary
    (onesBoot :: onesWakes ++ [onesBoot]) coldBoot rfl (by rw [rests]; exact ones_enrolled)
    (by decide) ones_pass
  have kept := recoverable
  rw [← rests] at kept
  have first := derives _ (key recoverable bytes)
  have second := derivesAgain _ (key kept bytesAgain)
  exact ⟨_, _, first, second, (one_key_pair oneLibrary_agrees first second recoverable
    (tolerated _ rfl) (tolerated _ rfl)).1⟩

end Microgrid.AppMain
