import Microgrid.Puf.Reconstruction

/-!
# How long a response lives

A response comes about in one of two places: in `puflib_init`, when the node wakes up to
retry, or later in `app_main`, when it asks for one. Where `app_main` asks, it also
releases; where it returns without asking, a response of the first kind stays.

The retries are bounded by a counter in RTC memory that every deep sleep to retry finds
one higher. Between two such sleeps the node is never without its enrollment.
-/

namespace Microgrid.AppMain

open CrashPrograms Puf Puflib RotIdentity

/-! ### One request -/

/-- How a request for the response ends on an enrolled node, with helper data for responses
of this length. -/
inductive RequestCase (inputs : Measurements) (length : Nat) (memory : Memory)
    (result : Result Nvs Memory (Option (Option Nat × Nat))) : Prop where
  /-- The response is handed out. -/
  | gives {after : Memory} (passed : Live length memory ∨ hwOk inputs.responseSram = true)
      (live : Live length after)
      (ran : result = ⟨[], after, .returned (some (after.pufResponse, after.pufResponseLen))⟩)
  /-- The retries are used up. -/
  | fails {after : Memory} (spent : memory.pufResetRetryCount + 1 > rotPufResetRetryLimit)
      (released : Released after) (ran : result = ⟨[], after, .returned none⟩)
  /-- The node goes to sleep to retry. -/
  | resets {after : Memory} (before : Released memory) (released : Released after)
      (retrying : Retrying after) (counted : after.pufResetRetryCount = memory.pufResetRetryCount + 1)
      (bounded : after.pufResetRetryCount ≤ rotPufResetRetryLimit)
      (ran : result = ⟨[], after, .slept⟩)

/-- A memory that holds a response has not released it. -/
theorem not_released_of_live {length : Nat} {memory : Memory} (live : Live length memory) :
    ¬ Released memory := by
  intro released
  have state : memory.pufState = .responseClean := released.state
  rw [live.state] at state
  cases state

/-- A response that was put behind released buffers is live. -/
theorem live_respond {memory : Memory} (released : Released memory) (response : Bytes)
    (state : State) :
    Live response.length
      { memory.respond response with state := state, pufState := .responseReady } where
  state := rfl
  buffers := ⟨memory.buffers, response, rfl, released.buffers, rfl⟩
  pointer := by
    rw [Memory.respond]
    simp
  len := rfl

/-- A response that is ready is handed out, and the retries are forgotten. -/
theorem request_answered {nvs : Nvs} (enrolled : isEnrolled nvs = true) (inputs : Measurements)
    {memory : Memory} (ready : memory.pufState = .responseReady) :
    rotIdentityGetPufResponse inputs nvs memory = ⟨[], { memory with pufResetRetryCount := 0 },
      .returned (some (memory.pufResponse, memory.pufResponseLen))⟩ := by
  rw [rotIdentityGetPufResponse, Program.load_bind, enrolled]
  simp only [Bool.not_true, Bool.false_eq_true, if_false]
  rw [Program.inspect_bind, if_pos ready]
  rfl

/-- So is one that is measured and passes its check. -/
theorem request_measured {nvs : Nvs} (enrolled : isEnrolled nvs = true) {inputs : Measurements}
    {memory measured : Memory} (released : memory.pufState = .responseClean)
    (ran : getPufResponse inputs nvs memory = ⟨[], measured, .returned true⟩) :
    rotIdentityGetPufResponse inputs nvs memory = ⟨[], { measured with pufResetRetryCount := 0 },
      .returned (some (measured.pufResponse, measured.pufResponseLen))⟩ := by
  have notReady : ¬ memory.pufState = .responseReady := by
    rw [released]
    decide
  rw [rotIdentityGetPufResponse, Program.load_bind, enrolled]
  simp only [Bool.not_true, Bool.false_eq_true, if_false]
  rw [Program.inspect_bind, if_neg notReady, Program.bind_returned ran _ rfl]
  rfl

/-- So a request that finds a response is one that gives it. -/
theorem request_live {nvs : Nvs} (enrolled : isEnrolled nvs = true) (inputs : Measurements)
    {length : Nat} {memory : Memory} (live : Live length memory) :
    RequestCase inputs length memory (rotIdentityGetPufResponse inputs nvs memory) := by
  have after : Live length { memory with pufResetRetryCount := 0 } := { live with }
  exact .gives (.inl live) after (request_answered enrolled inputs live.state)

/-- A measurement that was rejected is retried as long as the counter allows. -/
theorem request_rejected {nvs : Nvs} (enrolled : isEnrolled nvs = true) {inputs : Measurements}
    {length : Nat} {memory measured : Memory} (before : Released memory)
    (ran : getPufResponse inputs nvs memory = ⟨[], measured, .returned false⟩)
    (released : Released measured)
    (same : measured.pufResetRetryCount = memory.pufResetRetryCount) :
    RequestCase inputs length memory (rotIdentityGetPufResponse inputs nvs memory) := by
  have notReady : ¬ memory.pufState = .responseReady := by
    rw [before.state]
    decide
  rw [rotIdentityGetPufResponse, Program.load_bind, enrolled]
  simp only [Bool.not_true, Bool.false_eq_true, if_false]
  rw [Program.inspect_bind, if_neg notReady, Program.bind_returned ran _ rfl,
    Program.inspect_bind]
  simp only [Bool.false_eq_true, if_false]
  by_cases spent : measured.pufResetRetryCount + 1 > rotPufResetRetryLimit
  · rw [if_pos spent]
    have after : Released { measured with pufResetRetryCount := 0 } := { released with }
    exact .fails (same ▸ spent) after rfl
  · rw [if_neg spent]
    have after : Released { measured with
        pufResetRetryCount := measured.pufResetRetryCount + 1, state := .pufResponseReset } :=
      { released with }
    exact .resets before after rfl (congrArg (· + 1) same) (Nat.le_of_not_gt spent) rfl

/-- Without a response, the RTC path is measured. -/
theorem request_released {nvs : Nvs} {pufFreq : List Nat} {bits : Nat} {ecc : Bytes}
    (fitting : Fitting .pufMask .eccData nvs pufFreq bits ecc) (enrolled : isEnrolled nvs = true)
    (inputs : Measurements) {memory : Memory} (released : Released memory) :
    RequestCase inputs (ecc.length / 8) memory (rotIdentityGetPufResponse inputs nvs memory) := by
  obtain ⟨response, errors, _, size, reconstructed⟩ :=
    reconstruct_run fitting inputs.responseSram memory
  have ran := getPufResponse_reconstructed reconstructed
  have responded := live_respond released response memory.state
  by_cases passed : hwOk inputs.responseSram = true
  · rw [if_pos passed] at ran
    have after : Live (ecc.length / 8) { memory.respond response with
        pufState := .responseReady, pufResetRetryCount := 0 } := by
      rw [← size]
      exact { responded with }
    exact .gives (.inr passed) after (request_measured enrolled released.state ran)
  · rw [if_neg passed] at ran
    exact request_rejected enrolled released ran responded.cleaned rfl

/-! ### One boot -/

/-- What the memory of an enrolled node is once the enrollment step has returned. -/
inductive Prepared (machine : Machine Nvs Memory) (boot : Boot) (length : Nat) (memory : Memory) :
    Prop where
  /-- No response was reconstructed, or none was kept. -/
  | released (released : Released memory)
      (unready : ¬ (WakesToRetry machine boot ∧ hwOk boot.inputs.pufBuffer = true))
  /-- The retry gave a response. -/
  | live (live : Live length memory) (retry : WakesToRetry machine boot)
      (passed : hwOk boot.inputs.pufBuffer = true)

/-- A boot starts without buffers. -/
theorem started_buffers (machine : Machine Nvs Memory) (boot : Boot) :
    (node.memoryAt boot machine).buffers = [] := by
  rw [Firmware.memoryAt, Firmware.woken]
  split
  · rfl
  · cases machine.asleep <;> rfl

/-- A boot starts without a response if the node slept without one. -/
theorem started_released {machine : Machine Nvs Memory}
    (settled : ∀ memory, machine.asleep = some memory → memory.pufState = .responseClean)
    (boot : Boot) : Released (node.memoryAt boot machine) := by
  rw [Firmware.memoryAt, Firmware.woken]
  have empty {buffer : Bytes} (member : buffer ∈ ([] : List Bytes)) :
      ∀ byte ∈ buffer, byte = 0 := absurd member List.not_mem_nil
  split
  · exact ⟨rfl, fun _ => empty⟩
  · cases asleep : machine.asleep with
    | none => exact ⟨rfl, fun _ => empty⟩
    | some memory => exact ⟨settled memory asleep, fun _ => empty⟩

/-- The enrollment step of an enrolled node returns true. -/
theorem step_rests {machine : Machine Nvs Memory} {pufFreqRtc pufFreqSleep : List Nat}
    (recoverable : Recoverable machine.store pufFreqRtc pufFreqSleep) {boot : Boot}
    (why : node.woken boot machine = none ∨ WakesToRetry machine boot)
    (settled : ∀ memory, machine.asleep = some memory → memory.pufState = .responseClean) :
    ∃ memory, rotIdentityRunEnrollmentStep boot.inputs machine.store (node.memoryAt boot machine) =
        ⟨[], memory, .returned true⟩ ∧
      Prepared machine boot (helperBits pufFreqRtc pufFreqSleep / 8 / 8) memory ∧
      memory.pufResetRetryCount = (node.memoryAt boot machine).pufResetRetryCount := by
  have enrolled := recoverable.isEnrolled
  have released := started_released settled boot
  rcases why with fresh | retry
  · have init : puflibInit boot.inputs machine.store (node.memoryAt boot machine) =
        ⟨[], node.memoryAt boot machine, .returned ()⟩ := by
      rw [Firmware.memoryAt, fresh]
      rfl
    refine ⟨_, step_resumes init enrolled, .released released ?_, rfl⟩
    rintro ⟨⟨memory, woken, _⟩, _⟩
    rw [fresh] at woken
    cases woken
  · obtain ⟨response, errors, _, size, reconstructed⟩ :=
      reconstruct_run recoverable.fittingSleep boot.inputs.pufBuffer (node.memoryAt boot machine)
    have ran := pufResponseResetCalculate_reconstructed retry.state reconstructed
    rw [(helperData_length pufFreqRtc pufFreqSleep).2] at size
    have init : puflibInit boot.inputs machine.store (node.memoryAt boot machine) =
        pufResponseResetCalculate boot.inputs machine.store (node.memoryAt boot machine) := by
      rw [puflibInit, Program.inspect_bind, retry.state]
    have responded := live_respond released response .none
    by_cases passed : hwOk boot.inputs.pufBuffer = true
    · rw [if_pos passed] at ran
      refine ⟨_, step_resumes (init.trans ran) enrolled, .live ?_ retry passed, rfl⟩
      rw [← size]
      exact responded
    · rw [if_neg passed] at ran
      have cleaned : Released ({ (node.memoryAt boot machine).respond response with
          state := .none } : Memory).cleaned := { responded.cleaned with }
      exact ⟨_, step_resumes (init.trans ran) enrolled, .released cleaned fun both => passed both.2,
        rfl⟩

/-- The boot returns without asking for a response, which the retry it woke up for gave. -/
def LeavesResponse (machine : Machine Nvs Memory) (boot : Boot) : Prop :=
  (WakesToRetry machine boot ∧ hwOk boot.inputs.pufBuffer = true) ∧
    boot.serverRef = true ∧ (boot.wifi && boot.socket) = false

/-- How a boot ends that comes past the enrollment step with this memory. -/
inductive BootEnd (machine : Machine Nvs Memory) (boot : Boot) (memory : Memory) : Prop where
  | returns (ended : (node.result boot machine).outcome = .returned ())
      (released : Released (node.result boot machine).memory ↔ ¬ LeavesResponse machine boot)
  | resets (ended : (node.result boot machine).outcome = .slept)
      (released : Released (node.result boot machine).memory)
      (retrying : Retrying (node.result boot machine).memory)
      (counted : (node.result boot machine).memory.pufResetRetryCount =
        memory.pufResetRetryCount + 1)
      (bounded : (node.result boot machine).memory.pufResetRetryCount ≤ rotPufResetRetryLimit)

/-- With a pinned reference and no connection, the node asks for nothing. -/
theorem boot_silent {machine : Machine Nvs Memory} {boot : Boot} {stores : List Nvs}
    {memory : Memory}
    (step : rotIdentityRunEnrollmentStep boot.inputs machine.store (node.memoryAt boot machine) =
      ⟨stores, memory, .returned true⟩)
    (pinned : boot.serverRef = true) (offline : (boot.wifi && boot.socket) = false) :
    node.result boot machine = ⟨stores, memory, .returned ()⟩ := by
  have idle : appMainEnrolled boot true (stores.getLastD machine.store) memory =
      ⟨[], memory, .returned ()⟩ := by
    rw [appMainEnrolled_eq, if_neg fun asks => asks.2 ⟨pinned, offline⟩]
    rfl
  apply (Program.bind_returned step _ idle).trans
  rw [Result.prepend_mk, List.append_nil]

/-- Otherwise it asks for a response. -/
theorem boot_asks {machine : Machine Nvs Memory} {boot : Boot} {stores : List Nvs}
    {memory : Memory}
    (step : rotIdentityRunEnrollmentStep boot.inputs machine.store (node.memoryAt boot machine) =
      ⟨stores, memory, .returned true⟩)
    (asks : ¬ (boot.serverRef = true ∧ (boot.wifi && boot.socket) = false)) :
    node.result boot machine =
      (useResponse boot (stores.getLastD machine.store) memory).prepend stores := by
  have used : appMainEnrolled boot true = useResponse boot := by
    rw [appMainEnrolled_eq, if_pos ⟨rfl, asks⟩]
  rw [← used]
  exact Program.bind_returned step _ rfl

/-- The request it makes ends in one of the ways a request ends. -/
theorem Prepared.request {machine : Machine Nvs Memory} {boot : Boot} {nvs : Nvs}
    {memory : Memory} {pufFreqRtc pufFreqSleep : List Nat}
    (prepared : Prepared machine boot (helperBits pufFreqRtc pufFreqSleep / 8 / 8) memory)
    (recoverable : Recoverable nvs pufFreqRtc pufFreqSleep) :
    RequestCase boot.inputs (helperBits pufFreqRtc pufFreqSleep / 8 / 8) memory
      (rotIdentityGetPufResponse boot.inputs nvs memory) := by
  cases prepared with
  | released released _ =>
    have request := request_released recoverable.fittingRtc recoverable.isEnrolled boot.inputs
      released
    rwa [(helperData_length pufFreqRtc pufFreqSleep).1] at request
  | live live _ _ => exact request_live recoverable.isEnrolled boot.inputs live

/-- A boot without a response stays without one; where it asks for one, it releases it. -/
theorem boot_end {machine : Machine Nvs Memory} {boot : Boot} {stores : List Nvs} {memory : Memory}
    (step : rotIdentityRunEnrollmentStep boot.inputs machine.store (node.memoryAt boot machine) =
      ⟨stores, memory, .returned true⟩)
    {pufFreqRtc pufFreqSleep : List Nat}
    (recoverable : Recoverable (stores.getLastD machine.store) pufFreqRtc pufFreqSleep)
    (prepared : Prepared machine boot (helperBits pufFreqRtc pufFreqSleep / 8 / 8) memory) :
    BootEnd machine boot memory := by
  by_cases silent : boot.serverRef = true ∧ (boot.wifi && boot.socket) = false
  · have ran := boot_silent step silent.1 silent.2
    refine .returns (by rw [ran]) ?_
    rw [ran]
    cases prepared with
    | released released unready => exact iff_of_true released fun leaves => unready leaves.1
    | live live retry passed =>
      exact iff_of_false (not_released_of_live live) fun stays => stays ⟨⟨retry, passed⟩, silent⟩
  · have ran := boot_asks step silent
    have stays : ¬ LeavesResponse machine boot := fun leaves => silent leaves.2
    rw [useResponse] at ran
    cases prepared.request recoverable with
    | gives _ live handed =>
      rw [Program.bind_returned handed _ rfl] at ran
      exact .returns (by rw [ran]; rfl) (iff_of_true (by rw [ran]; exact live.cleaned) stays)
    | fails _ released handed =>
      rw [Program.bind_returned handed _ rfl] at ran
      exact .returns (by rw [ran]; rfl) (iff_of_true (by rw [ran]; exact released) stays)
    | resets before released retrying counted bounded slept =>
      rw [Program.bind_slept slept] at ran
      exact .resets (by rw [ran]; rfl) (by rw [ran]; exact released) (by rw [ran]; exact retrying)
        (by rw [ran]; exact counted) (by rw [ran]; exact bounded)

/-! ### Histories -/

/-- No response outlives the boot before a deep sleep. -/
def Settled (machine : Machine Nvs Memory) : Prop :=
  ∀ memory, machine.asleep = some memory → memory.pufState = .responseClean

/-- What became of the memory in a boot. -/
inductive MemoryCase (history : List Boot) (boot : Boot) : Prop where
  /-- It sleeps for the next sample. -/
  | samples (clean : (node.result boot (after history)).memory.pufState = .responseClean)
      (ended : (node.result boot (after history)).outcome = .slept)
      (state : (node.result boot (after history)).memory.state = .provisioning)
  | aborts (ended : (node.result boot (after history)).outcome = .aborted)
  /-- It comes past the enrollment step. -/
  | goesOn {memory : Memory} (ended : BootEnd (after history) boot memory)
      (counter : memory.pufResetRetryCount =
        (node.memoryAt boot (after history)).pufResetRetryCount)

/-- Whatever boots came before, one of the cases holds. -/
theorem memory_cases {history : List Boot} (settled : Settled (after history)) (boot : Boot) :
    MemoryCase history boot := by
  have started := started_released settled boot
  cases boot_cases history boot (consistent_after history).dormant with
  | begins fresh idle ran =>
    exact .samples (by rw [ran]; exact started.state) (by rw [ran]) (by rw [ran])
  | samples boots run sample counted fresh early ran =>
    exact .samples (by rw [ran]; exact started.state) (by rw [ran]) (by rw [ran]; exact sample.state)
  | stops boots run sample counted fresh last underivable ran => exact .aborts (by rw [ran])
  | @completes earlier start wakes boots run sample counted fresh last derivable step =>
    have recoverable : Recoverable ((lastStores (samples (wakes ++ [boot])) (runData wakes boot)
        (after history).store).getLastD (after history).store) (getPufBitFrequency boot.inputs)
        (countOnes (samples (wakes ++ [boot]))) := by
      refine ⟨by rw [getPufBitFrequency_eq, countOnes_length], countOnes_length _, derivable, ?_⟩
      refine (holds_storeAll (runData wakes boot) (count (samples (wakes ++ [boot]))
        (after history).store)).congr fun key other => ?_
      exact (Function.update_of_ne other _ _).trans (Function.update_of_ne other _ _)
    have prepared : Prepared (after history) boot (helperBits (getPufBitFrequency boot.inputs)
        (countOnes (samples (wakes ++ [boot]))) / 8 / 8)
        { node.memoryAt boot (after history) with iterationProgress := wakes.length + 1 } := by
      refine .released { started with } fun both => ?_
      have awake := both.1.state
      rw [Retrying, sample.state] at awake
      cases awake
    exact .goesOn (boot_end step recoverable prepared) rfl
  | rests enrolled why silent dreams =>
    obtain ⟨pufFreqRtc, pufFreqSleep, recoverable⟩ := recoverable_after enrolled
    obtain ⟨memory, step, prepared, counter⟩ := step_rests recoverable why settled
    exact .goesOn (boot_end step recoverable prepared) counter

/-- After every history the node is settled. -/
theorem settled_after (history : List Boot) : Settled (after history) := by
  refine @Firmware.cycles_induction _ _ _ node Nvs.blank (fun _ machine => Settled machine) nofun
    (fun history boot settled => ?_) history
  intro memory asleep
  obtain ⟨_, slept, rfl, _⟩ := node.cycle_asleep asleep
  cases memory_cases settled boot with
  | samples clean _ _ => exact clean
  | aborts ended =>
    rw [ended] at slept
    cases slept
  | goesOn ended _ =>
    cases ended with
    | returns ended _ =>
      rw [ended] at slept
      cases slept
    | resets _ released _ _ _ => exact released.state

/-- A boot that leaves a response returns with it in memory. -/
theorem response_left {history : List Boot} (enrolled : isEnrolled (after history).store = true)
    {boot : Boot} (leaves : LeavesResponse (after history) boot) :
    (node.result boot (after history)).outcome = .returned () ∧
      ¬ Released (node.result boot (after history)).memory := by
  obtain ⟨pufFreqRtc, pufFreqSleep, recoverable⟩ := recoverable_after enrolled
  obtain ⟨memory, step, prepared, _⟩ :=
    step_rests recoverable (.inr leaves.1.1) (settled_after history)
  have ran := boot_silent step leaves.2.1 leaves.2.2
  cases prepared with
  | released _ unready => exact absurd leaves.1 unready
  | live live _ _ =>
    rw [ran]
    exact ⟨rfl, not_released_of_live live⟩

/-- When `app_main` returns, no response is left in memory, except in a boot that woke up to
a retry that gave one and then did not come to ask for it. -/
theorem response_released_iff (history : List Boot) (boot : Boot)
    (returned : (node.result boot (after history)).outcome = .returned ()) :
    Released (node.result boot (after history)).memory ↔ ¬ LeavesResponse (after history) boot := by
  cases memory_cases (settled_after history) boot with
  | samples _ ended _ =>
    rw [ended] at returned
    cases returned
  | aborts ended =>
    rw [ended] at returned
    cases returned
  | goesOn ended _ =>
    cases ended with
    | returns _ released => exact released
    | resets ended _ _ _ _ =>
      rw [ended] at returned
      cases returned

/-- A boot all of whose measurements are rejected goes to sleep to retry, as long as the counter
allows. -/
theorem rejection_resets {history : List Boot} (enrolled : isEnrolled (after history).store = true)
    {boot : Boot} (powered : boot.powerLoss = none)
    (why : node.woken boot (after history) = none ∨
      WakesToRetry (after history) boot ∧ hwOk boot.inputs.pufBuffer = false)
    (asks : ¬ (boot.serverRef = true ∧ (boot.wifi && boot.socket) = false))
    (rejected : hwOk boot.inputs.responseSram = false)
    (unspent : (node.memoryAt boot (after history)).pufResetRetryCount < rotPufResetRetryLimit) :
    ∃ memory, (after (history ++ [boot])).asleep = some memory ∧ Retrying memory ∧
      memory.pufResetRetryCount = (node.memoryAt boot (after history)).pufResetRetryCount + 1 := by
  obtain ⟨pufFreqRtc, pufFreqSleep, recoverable⟩ := recoverable_after enrolled
  obtain ⟨memory, step, prepared, counter⟩ :=
    step_rests recoverable (why.imp_right And.left) (settled_after history)
  have unready : Released memory := by
    cases prepared with
    | released released _ => exact released
    | live _ retry passed =>
      rcases why with fresh | ⟨-, failed⟩
      · obtain ⟨_, woken, _⟩ := retry
        rw [fresh] at woken
        cases woken
      · rw [failed] at passed
        cases passed
  have ran := boot_asks step asks
  rw [useResponse, List.getLastD_nil] at ran
  cases prepared.request recoverable with
  | gives passed _ _ =>
    rcases passed with live | passed
    · exact absurd unready (not_released_of_live live)
    · rw [rejected] at passed
      cases passed
  | fails spent _ _ =>
    rw [counter] at spent
    omega
  | @resets slept before released retrying counted bounded ended =>
    rw [Program.bind_slept ended] at ran
    refine ⟨slept, ?_, retrying, by rw [counted, counter]⟩
    rw [after_boot, node.cycle_powered powered, ran]
    rfl

/-- The node has its reference and its network, and the RTC measurement reads all zeros. -/
def rejectedBoot : Boot :=
  { coldStart := true
    inputs := { onesBoot.inputs with
      responseSram := ⟨List.replicate pufMemorySize 0, List.length_replicate⟩ }
    serverRef := true
    wifi := true
    socket := true }

/-- At the retry the measurement is good and the network is gone. -/
def offlineBoot : Boot := { onesBoot with serverRef := true }

/-- The network is there. -/
def onlineBoot : Boot := { offlineBoot with wifi := true, socket := true }

theorem zeros_rejected {sram : Sram} (zeros : sram.bytes = List.replicate pufMemorySize 0) :
    hwOk sram = false := by
  rw [hwOk, zeros, hammingWeight_replicate]
  decide

theorem ones_accepted {sram : Sram} (ones : sram.bytes = List.replicate pufMemorySize 0xFF) :
    hwOk sram = true := by
  rw [hwOk, ones, hammingWeight_replicate]
  decide

/-- After the run of ones, the rejected boot goes to sleep for its first retry. -/
theorem rejectedBoot_resets : ∃ memory,
    (after (onesBoot :: onesWakes ++ [onesBoot] ++ [rejectedBoot])).asleep = some memory ∧
      Retrying memory ∧ memory.pufResetRetryCount = 1 :=
  @rejection_resets _ ones_enrolled rejectedBoot rfl (.inl rfl) (by decide) (zeros_rejected rfl)
    (by decide)

/-- It stays enrolled. -/
theorem rejectedBoot_enrolled :
    isEnrolled (after (onesBoot :: onesWakes ++ [onesBoot] ++ [rejectedBoot])).store = true := by
  rw [store_rests ones_enrolled [rejectedBoot]]
  exact ones_enrolled

/-- A wake-up without the network returns with the response in memory. -/
theorem response_outlives_boot :
    (node.result offlineBoot
        (after (onesBoot :: onesWakes ++ [onesBoot] ++ [rejectedBoot]))).outcome = .returned () ∧
      ¬ Released (node.result offlineBoot
        (after (onesBoot :: onesWakes ++ [onesBoot] ++ [rejectedBoot]))).memory := by
  obtain ⟨memory, asleep, retrying, -⟩ := rejectedBoot_resets
  exact response_left rejectedBoot_enrolled
    ⟨⟨⟨memory.wake, woken_warm rfl asleep, retrying⟩, ones_accepted rfl⟩, rfl, rfl⟩

/-- With the network the retry gives a response just the same, and it is released. -/
theorem online_released : ∃ length memory, Live length memory ∧
    rotIdentityRunEnrollmentStep onlineBoot.inputs
        (after (onesBoot :: onesWakes ++ [onesBoot] ++ [rejectedBoot])).store
        (node.memoryAt onlineBoot (after (onesBoot :: onesWakes ++ [onesBoot] ++ [rejectedBoot])))
      = ⟨[], memory, .returned true⟩ ∧
    Released (node.result onlineBoot
      (after (onesBoot :: onesWakes ++ [onesBoot] ++ [rejectedBoot]))).memory := by
  have enrolled := rejectedBoot_enrolled
  obtain ⟨dormant, asleep, retrying, -⟩ := rejectedBoot_resets
  have retry : WakesToRetry (after (onesBoot :: onesWakes ++ [onesBoot] ++ [rejectedBoot]))
      onlineBoot := ⟨dormant.wake, woken_warm rfl asleep, retrying⟩
  obtain ⟨pufFreqRtc, pufFreqSleep, recoverable⟩ := recoverable_after enrolled
  obtain ⟨memory, step, prepared, -⟩ := step_rests recoverable (.inr retry) (settled_after _)
  cases prepared with
  | released _ unready => exact absurd ⟨retry, ones_accepted rfl⟩ unready
  | live live _ _ =>
    have ran := boot_asks step (by decide)
    rw [useResponse, List.getLastD_nil, Program.bind_returned
      (request_answered recoverable.isEnrolled onlineBoot.inputs live.state) _ rfl] at ran
    refine ⟨_, memory, live, step, (response_released_iff _ onlineBoot (by rw [ran]; rfl)).mpr ?_⟩
    exact fun leaves => Bool.false_ne_true leaves.2.2.symm

/-! ### Retries -/

/-- Boots in a row that each end in the deep sleep of `get_puf_response_reset`, the first one
after any history and every other one woken from the sleep before. -/
def RetryRun (history boots : List Boot) : Prop :=
  ∀ earlier boot later, boots = earlier ++ boot :: later →
    (∃ memory, (after (history ++ earlier ++ [boot])).asleep = some memory ∧ Retrying memory) ∧
      (earlier ≠ [] → boot.coldStart = false)

/-- The retry counter is at least the number of such boots.

Induct over the boots from the back: each wakes with the counter of the one before, and every
way to the sleep adds one to it. -/
theorem retryRun_counter {history boots : List Boot} (run : RetryRun history boots)
    (nonempty : boots ≠ []) :
    ∃ memory, (after (history ++ boots)).asleep = some memory ∧ Retrying memory ∧
      boots.length ≤ memory.pufResetRetryCount ∧
      memory.pufResetRetryCount ≤ rotPufResetRetryLimit := by
  induction boots using List.reverseRecOn with
  | nil => exact absurd rfl nonempty
  | append_singleton boots boot inductionHypothesis =>
    obtain ⟨⟨memory, asleep, retrying⟩, warm⟩ := run boots boot [] rfl
    have shorter : RetryRun history boots := fun earlier other later same =>
      run earlier other (later ++ [boot]) (by rw [same, List.append_assoc, List.cons_append])
    rw [← List.append_assoc]
    refine ⟨memory, asleep, retrying, ?_⟩
    rw [after_boot] at asleep
    obtain ⟨_, slept, rfl, _⟩ := node.cycle_asleep asleep
    have started : boots.length ≤
        (node.memoryAt boot (after (history ++ boots))).pufResetRetryCount := by
      by_cases first : boots = []
      · rw [first]
        exact Nat.zero_le _
      · obtain ⟨before, dormant, _, counted, _⟩ := inductionHypothesis shorter first
        rw [Firmware.memoryAt, woken_warm (warm first) dormant]
        exact counted
    cases memory_cases (settled_after (history ++ boots)) boot with
    | samples _ _ state =>
      rw [retrying] at state
      cases state
    | aborts ended =>
      rw [ended] at slept
      cases slept
    | goesOn ended counter =>
      cases ended with
      | returns ended _ =>
        rw [ended] at slept
        cases slept
      | resets _ _ _ counted bounded =>
        rw [List.length_append, counted, counter]
        exact ⟨Nat.succ_le_succ started, by rw [← counter, ← counted]; exact bounded⟩

/-- Of an enrolled node: at most five deep sleeps in a row are retries. No boot writes to NVS
or sleeps for any other reason, and every enrollment step returns true. A request for the
response then puts the node to sleep to retry, fails, or hands out a buffer that was filled
since the boot, with an eighth of the length of the helper data that was used. -/
theorem retries_bounded (history : List Boot)
    (enrolled : isEnrolled (after history).store = true) :
    (∀ boots, RetryRun history boots → boots.length ≤ 5) ∧
    ∀ later boot,
      let machine := after (history ++ later)
      let start := node.memoryAt boot machine
      machine.store = (after history).store ∧ start.buffers = [] ∧
      (node.result boot machine).stores = [] ∧
      ((node.result boot machine).outcome = .slept →
        Retrying (node.result boot machine).memory) ∧
      ∃ memory usedEcc,
        rotIdentityRunEnrollmentStep boot.inputs machine.store start =
          ⟨[], memory, .returned true⟩ ∧
        machine.store (if memory.pufState = .responseReady then .eccSleepData else .eccData) =
          some usedEcc ∧
        let request := rotIdentityGetPufResponse boot.inputs machine.store memory
        (request.outcome = .slept ∧ Retrying request.memory) ∨ request.outcome = .returned none ∨
          ∃ pointer response, request.outcome = .returned (some (some pointer, response.length)) ∧
            request.memory.buffers[pointer]? = some response ∧
            response.length = usedEcc.length / 8 := by
  refine ⟨fun boots run => ?_, fun later boot => ?_⟩
  · by_cases nonempty : boots = []
    · rw [nonempty]
      exact Nat.zero_le 5
    · obtain ⟨_, _, _, counted, bounded⟩ := retryRun_counter run nonempty
      exact counted.trans bounded
  · intro machine start
    have same : machine.store = (after history).store := store_rests enrolled later
    have enrolledNow : isEnrolled machine.store = true := by
      rw [same]
      exact enrolled
    refine ⟨same, started_buffers machine boot, ?_⟩
    cases boot_cases (history ++ later) boot (consistent_after _).dormant with
    | rests _ why silent dreams =>
      refine ⟨silent, dreams, ?_⟩
      obtain ⟨pufFreqRtc, pufFreqSleep, recoverable⟩ := recoverable_after enrolledNow
      obtain ⟨memory, step, prepared, _⟩ := step_rests recoverable why (settled_after _)
      obtain ⟨usedEcc, present, size⟩ : ∃ usedEcc,
          machine.store (if memory.pufState = .responseReady then .eccSleepData else .eccData) =
            some usedEcc ∧ usedEcc.length = helperBits pufFreqRtc pufFreqSleep / 8 := by
        obtain ⟨lengthRtc, lengthSleep⟩ := helperData_length pufFreqRtc pufFreqSleep
        split
        · exact ⟨_, recoverable.holds.eccSleepData, lengthSleep⟩
        · exact ⟨_, recoverable.holds.eccData, lengthRtc⟩
      refine ⟨memory, usedEcc, step, present, ?_⟩
      cases prepared.request recoverable with
      | resets _ _ retrying _ _ ran =>
        rw [ran]
        exact .inl ⟨rfl, retrying⟩
      | fails _ _ ran =>
        rw [ran]
        exact .inr (.inl rfl)
      | @gives handed _ live ran =>
        obtain ⟨earlier, response, buffers, _, length⟩ := live.buffers
        have pointer : handed.pufResponse = some earlier.length := by
          rw [live.pointer, buffers, List.length_append]
          rfl
        rw [ran, pointer, live.len, ← length]
        refine .inr (.inr ⟨earlier.length, response, rfl, ?_, by rw [length, size]⟩)
        rw [buffers]
        exact List.getElem?_concat_length ..
    | begins fresh | samples _ _ _ _ fresh | completes _ _ _ _ fresh | stops _ _ _ _ fresh =>
      rw [fresh] at enrolledNow
      cases enrolledNow

/-- The sleep measurement reads all zeros as well. -/
def rejectedWake : Boot :=
  { rejectedBoot with
    coldStart := false
    inputs := { rejectedBoot.inputs with
      pufBuffer := ⟨List.replicate pufMemorySize 0, List.length_replicate⟩ } }

/-- A rejected boot and a number of such wake-ups. -/
def rejectedBoots (count : Nat) : List Boot := rejectedBoot :: List.replicate count rejectedWake

/-- Every one of them, up to the limit, is a retry that is counted. -/
theorem rejectedBoots_reset (count : Nat) (few : count < rotPufResetRetryLimit) :
    ∃ memory, (after (onesBoot :: onesWakes ++ [onesBoot] ++ rejectedBoots count)).asleep
        = some memory ∧ Retrying memory ∧ memory.pufResetRetryCount = count + 1 := by
  induction count with
  | zero => exact rejectedBoot_resets
  | succ count inductionHypothesis =>
    obtain ⟨memory, asleep, retrying, counted⟩ := inductionHypothesis (by omega)
    have woken := woken_warm (show rejectedWake.coldStart = false from rfl) asleep
    have enrolled : isEnrolled (after (onesBoot :: onesWakes ++ [onesBoot] ++
        rejectedBoots count)).store = true := by
      rw [store_rests ones_enrolled]
      exact ones_enrolled
    have started : node.memoryAt rejectedWake (after (onesBoot :: onesWakes ++ [onesBoot] ++
        rejectedBoots count)) = memory.wake := node.memoryAt_woken woken
    have longer : onesBoot :: onesWakes ++ [onesBoot] ++ rejectedBoots (count + 1) =
        onesBoot :: onesWakes ++ [onesBoot] ++ rejectedBoots count ++ [rejectedWake] := by
      rw [rejectedBoots, rejectedBoots, List.replicate_succ']
      simp only [List.cons_append, List.append_assoc]
    have retried : memory.wake.pufResetRetryCount = count + 1 := counted
    rw [longer, ← retried, ← started]
    refine @rejection_resets _ enrolled rejectedWake rfl ?_ (by decide) (zeros_rejected rfl) ?_
    · exact .inr ⟨⟨memory.wake, woken, retrying⟩, zeros_rejected rfl⟩
    · rw [started, retried]
      exact few

/-- After the run of ones, a rejected boot and four wake-ups whose measurements are rejected as
well: five retries, and nothing is written. -/
theorem ones_retries_bounded :
    RetryRun (onesBoot :: onesWakes ++ [onesBoot]) (rejectedBoots 4) ∧
      (rejectedBoots 4).length = 5 ∧ (rejectedBoots 4).length ≤ 5 ∧
      (node.result rejectedWake
        (after (onesBoot :: onesWakes ++ [onesBoot] ++ rejectedBoots 3))).stores = [] := by
  have run : RetryRun (onesBoot :: onesWakes ++ [onesBoot]) (rejectedBoots 4) := by
    intro earlier boot later same
    cases earlier with
    | nil =>
      obtain ⟨rfl, -⟩ := List.cons.inj same
      obtain ⟨memory, asleep, retrying, -⟩ := rejectedBoot_resets
      exact ⟨⟨memory, asleep, retrying⟩, absurd rfl⟩
    | cons first rest =>
      obtain ⟨rfl, wakes⟩ := List.cons.inj same
      obtain ⟨size, front, back⟩ := List.append_eq_replicate_iff.mp wakes.symm
      obtain ⟨rfl, -⟩ := List.cons.inj back
      rw [List.length_cons] at size
      obtain ⟨memory, asleep, retrying, -⟩ := rejectedBoots_reset (rest.length + 1)
        (show rest.length + 1 < 5 by omega)
      refine ⟨⟨memory, ?_, retrying⟩, fun _ => rfl⟩
      rwa [rejectedBoots, List.replicate_succ', ← front, ← List.cons_append, ← List.append_assoc]
        at asleep
  obtain ⟨bounded, quiet⟩ := retries_bounded (onesBoot :: onesWakes ++ [onesBoot]) ones_enrolled
  exact ⟨run, rfl, bounded _ run, (quiet (rejectedBoots 3) rejectedWake).2.2.1⟩

end Microgrid.AppMain
