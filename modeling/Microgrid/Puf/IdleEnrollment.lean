import Microgrid.Puf.EnrollmentRuns

/-!
# The enrollment machine when enrollment is reported

`enroll_puf` is what takes the state machine from `PROVISIONING` back to `NONE`. On the boot
that completes a run the blobs are in NVS as soon as `puflib_init` returns, so the guard of
`rot_identity_run_enrollment_step` passes over that call and the state stays what it was.
On every other boot that reports enrollment the machine is idle: it was so from the start,
or a retried reconstruction left it so.
-/

namespace Microgrid.AppMain

open CrashPrograms Puf Puflib RotIdentity

/-- A reconstruction after deep sleep that returns leaves the state machine idle. -/
theorem pufResponseResetCalculate_idle {inputs : Measurements} {nvs : Nvs} {memory after : Memory}
    {stores : List Nvs} (calculated : pufResponseResetCalculate inputs nvs memory
      = ⟨stores, after, .returned ()⟩) : after.state = .none := by
  unfold pufResponseResetCalculate at calculated
  rw [Program.inspect_bind] at calculated
  obtain ⟨_, _, _, _, -, reconstructing, -⟩ := Program.bind_returned_inv calculated
  obtain ⟨_, measured, _, _, -, finishing, -⟩ := Program.bind_returned_inv reconstructing
  rw [Program.remember_bind] at finishing
  split at finishing
  · obtain ⟨-, rfl, -⟩ := Result.mk.inj finishing
    rfl
  · obtain ⟨-, rfl, -⟩ := Result.mk.inj finishing
    rfl

/-- A step that returns after a first part that did returns in the memory that part left,
if the node is enrolled by then. -/
theorem step_memory {inputs : Measurements} {nvs : Nvs} {memory between after : Memory}
    {earlier stores : List Nvs}
    (init : puflibInit inputs nvs memory = ⟨earlier, between, .returned ()⟩)
    (enrolled : isEnrolled (earlier.getLastD nvs) = true)
    (step : rotIdentityRunEnrollmentStep inputs nvs memory = ⟨stores, after, .returned true⟩) :
    after = between := by
  have resumed := step_resumes init enrolled
  rw [step] at resumed
  exact (Result.mk.inj resumed).2.1

/-- An idle node that reports enrollment was enrolled, and stays idle. -/
theorem idle_stays {inputs : Measurements} {nvs : Nvs} {memory after : Memory} {stores : List Nvs}
    (idle : memory.state = .none)
    (step : rotIdentityRunEnrollmentStep inputs nvs memory = ⟨stores, after, .returned true⟩) :
    after.state = .none := by
  cases enrolled : isEnrolled nvs with
  | false =>
    rw [step_begins inputs enrolled idle] at step
    cases (Result.mk.inj step).2.2
  | true =>
    rw [step_memory (puflibInit_idle inputs nvs idle) enrolled step]
    exact idle

/-- A node that retried its reconstruction is idle by the time it reports enrollment. -/
theorem retry_idles {inputs : Measurements} {nvs : Nvs} {memory after : Memory} {stores : List Nvs}
    (retrying : Retrying memory) (enrolled : isEnrolled nvs = true)
    (step : rotIdentityRunEnrollmentStep inputs nvs memory = ⟨stores, after, .returned true⟩) :
    after.state = .none := by
  obtain ⟨earlier, between, _, _, init, -, -⟩ := Program.bind_returned_inv step
  have calculated : pufResponseResetCalculate inputs nvs memory
      = ⟨earlier, between, .returned ()⟩ := by
    rw [puflibInit, Program.inspect_bind, show memory.state = .pufResponseReset from retrying] at init
    exact init
  have quiet := @quiet_pufResponseResetCalculate (fun _ => False) inputs nvs memory
  rw [calculated] at quiet
  obtain rfl : earlier = [] := quiet.1
  rw [step_memory init enrolled step]
  exact pufResponseResetCalculate_idle calculated

/-- A node that reports enrollment on a wake-up within a run is still in the state of the run. -/
theorem sampling_stays {boot : Boot} {wakes : List Boot} {nvs : Nvs} {memory after : Memory}
    {stores : List Nvs} (counted : Counted (samples wakes) nvs)
    (sampling : memory.state = .provisioning) (progress : memory.iterationProgress = wakes.length)
    (early : wakes.length < provisioningMeasurements)
    (step : rotIdentityRunEnrollmentStep boot.inputs nvs memory = ⟨stores, after, .returned true⟩) :
    after.state = .provisioning := by
  by_cases last : wakes.length + 1 = provisioningMeasurements
  · rw [step_completes boot counted sampling progress last] at step
    dsimp only at step
    split at step
    · obtain ⟨-, rfl, -⟩ := Result.mk.inj step
      exact sampling
    · cases (Result.mk.inj step).2.2
  · rw [step_samples boot counted sampling progress (by omega)] at step
    cases (Result.mk.inj step).2.2

/-- After every sequence of boots: when the enrollment step reports enrollment, its state
machine is idle exactly if the boot did not start within a provisioning run. -/
theorem idle_when_enrolled (history : List Boot) (boot : Boot) {stores : List Nvs} {memory : Memory}
    (step : rotIdentityRunEnrollmentStep boot.inputs (after history).store
      (node.memoryAt boot (after history)) = ⟨stores, memory, .returned true⟩) :
    memory.state = .none ↔ (node.memoryAt boot (after history)).state ≠ .provisioning := by
  cases woken : node.woken boot (after history) with
  | none =>
    have idle : (node.memoryAt boot (after history)).state = .none := by
      rw [Firmware.memoryAt, woken]
      rfl
    apply iff_of_true (idle_stays idle step)
    rw [idle]
    decide
  | some started =>
    obtain ⟨slept, asleep, rfl⟩ : ∃ slept, (after history).asleep = some slept ∧
        slept.wake = started := by
      rw [Firmware.woken] at woken
      split at woken
      · cases woken
      · exact Option.map_eq_some_iff.mp woken
    have same : node.memoryAt boot (after history) = slept.wake := node.memoryAt_woken woken
    rw [same] at step ⊢
    cases (consistent_after history).dormant slept asleep with
    | retrying enrolled state =>
      have retrying : Retrying slept.wake := state
      apply iff_of_true (retry_idles retrying enrolled step)
      rw [show slept.wake.state = .pufResponseReset from state]
      decide
    | sampling boots run fresh counted state progress early =>
      have stays := sampling_stays counted (show slept.wake.state = _ from state) progress early step
      refine iff_of_false ?_ fun other => other state
      rw [stays]
      decide

/-- A boot that is not a wake-up starts idle. -/
theorem cold_idle {boot : Boot} (cold : boot.coldStart = true) (machine : Machine Nvs Memory) :
    (node.memoryAt boot machine).state = .none := by
  have woken : node.woken boot machine = none := if_pos cold
  rw [Firmware.memoryAt, woken]
  rfl

/-- A cold boot of an enrolled node reports enrollment. -/
theorem cold_reports {boot : Boot} (cold : boot.coldStart = true) {history : List Boot}
    (enrolled : isEnrolled (after history).store = true) :
    ∃ memory, rotIdentityRunEnrollmentStep boot.inputs (after history).store
      (node.memoryAt boot (after history)) = ⟨[], memory, .returned true⟩ := by
  have idle := cold_idle cold (after history)
  exact ⟨_, step_resumes (puflibInit_idle _ _ idle) enrolled⟩

/-- A cold boot after a completed run reports enrollment and is idle. -/
theorem idle_when_enrolled_cold : ∃ (history : List Boot) (boot : Boot) (memory : Memory),
    rotIdentityRunEnrollmentStep boot.inputs (after history).store
        (node.memoryAt boot (after history)) = ⟨[], memory, .returned true⟩ ∧
      memory.state = .none := by
  obtain ⟨memory, step⟩ := @cold_reports { onesBoot with coldStart := true } rfl _ ones_enrolled
  refine ⟨_, _, memory, step, (idle_when_enrolled _ _ step).mpr ?_⟩
  rw [cold_idle rfl]
  decide

/-- The boot that completes a provisioning run reports enrollment with the state machine still
in that run. -/
theorem completion_leaves_provisioning :
    ¬∀ (history : List Boot) (boot : Boot) (stores : List Nvs) (memory : Memory),
      rotIdentityRunEnrollmentStep boot.inputs (after history).store
        (node.memoryAt boot (after history)) = ⟨stores, memory, .returned true⟩ →
      memory.state = .none := by
  intro idle
  obtain ⟨sample, counted, memory, step⟩ := @onesRun onesBoot rfl rfl
  obtain ⟨started, woken, state, progress⟩ := sample
  have same : node.memoryAt onesBoot (after (onesBoot :: onesWakes)) = started :=
    node.memoryAt_woken woken
  have reported := idle _ _ _ _ step
  rw [same] at step
  have early : onesWakes.length < provisioningMeasurements := by
    rw [onesWakes, List.length_replicate]
    decide
  have stays := sampling_stays counted state (progress.trans (by rw [onesWakes, List.length_replicate]))
    early step
  rw [reported] at stays
  cases stays

end Microgrid.AppMain
