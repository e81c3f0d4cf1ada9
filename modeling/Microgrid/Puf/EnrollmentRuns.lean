import Microgrid.Puf.AppMain
import Microgrid.Puf.Provisioning

/-!
# Enrollment over every sequence of boots

A provisioning run is a boot that begins it and the wake-ups that follow. Its state is
split: RTC memory knows how many wake-ups there were, and NVS what they counted.
`Dormant` says how the two belong together while the node sleeps. `boot_cases` lists
everything a boot can do from there, and the theorems about histories use nothing else.

Enrollment comes into being with one NVS operation, the fifth of the last boot of a run,
and from then on no boot performs any.
-/

namespace Microgrid.AppMain

open CrashPrograms Puf Puflib RotIdentity

/-! ### The enrollment step -/

/-- An idle node does nothing at first. -/
theorem puflibInit_idle (inputs : Measurements) (nvs : Nvs) {memory : Memory}
    (idle : memory.state = .none) : puflibInit inputs nvs memory = ⟨[], memory, .returned ()⟩ := by
  rw [puflibInit, Program.inspect_bind, idle]
  rfl

/-- A node that is not enrolled and not in a run begins one. -/
theorem step_begins (inputs : Measurements) {nvs : Nvs} (fresh : isEnrolled nvs = false)
    {memory : Memory} (idle : memory.state = .none) :
    rotIdentityRunEnrollmentStep inputs nvs memory =
      ⟨[count [] nvs], { memory with state := .provisioning, iterationProgress := 0 }, .slept⟩ := by
  have init := puflibInit_idle inputs nvs idle
  have enroll : enrollPuf inputs nvs memory =
      ⟨[count [] nvs], { memory with state := .provisioning, iterationProgress := 0 }, .slept⟩ := by
    rw [enrollPuf, Program.inspect_bind, idle]
    exact provisionPufCalculate_first inputs nvs _ rfl
  rw [rotIdentityRunEnrollmentStep, Program.bind_returned init _ rfl, List.getLastD_nil,
    Program.load_bind, if_neg (by simp [fresh]), Program.bind_slept enroll]
  rfl

/-- What the sleep measurements of a run are. -/
def samples (wakes : List Boot) : List Sram := wakes.map fun boot => boot.inputs.pufBuffer

theorem samples_concat (wakes : List Boot) (boot : Boot) :
    samples (wakes ++ [boot]) = samples wakes ++ [boot.inputs.pufBuffer] := by
  rw [samples, List.map_append]
  rfl

theorem samples_length (wakes : List Boot) : (samples wakes).length = wakes.length :=
  List.length_map ..

/-- A wake-up within a run goes on with it. -/
theorem puflibInit_sampling (inputs : Measurements) (nvs : Nvs) {memory : Memory}
    (sampling : memory.state = .provisioning) :
    puflibInit inputs nvs memory = provisionPufCalculate inputs nvs
      { memory with iterationProgress := memory.iterationProgress + 1 } := by
  cases memory with
  | mk state iterationProgress =>
    obtain rfl : state = .provisioning := sampling
    rfl

/-- A wake-up within a run counts its sample and sleeps again. -/
theorem step_samples (boot : Boot) {wakes : List Boot} {nvs : Nvs}
    (counted : Counted (samples wakes) nvs) {memory : Memory} (sampling : memory.state = .provisioning)
    (progress : memory.iterationProgress = wakes.length)
    (early : wakes.length + 1 < provisioningMeasurements) :
    rotIdentityRunEnrollmentStep boot.inputs nvs memory =
      ⟨[count (samples (wakes ++ [boot])) nvs],
        { memory with iterationProgress := wakes.length + 1 }, .slept⟩ := by
  have few : (samples wakes).length < 65535 := by
    rw [samples_length]
    exact lt_trans (Nat.lt_of_succ_lt early) (by decide)
  have init : puflibInit boot.inputs nvs memory =
      ⟨[count (samples (wakes ++ [boot])) nvs],
        { memory with iterationProgress := wakes.length + 1 }, .slept⟩ := by
    rw [puflibInit_sampling boot.inputs nvs sampling, samples_concat, progress]
    exact provisionPufCalculate_sample boot.inputs counted few _ (Nat.succ_pos _) early
  exact Program.bind_slept init _

/-- The counts and the blobs that the last wake-up of a run arrives at. -/
def runData (wakes : List Boot) (last : Boot) : HelperData :=
  helperData (getPufBitFrequency last.inputs) (countOnes (samples (wakes ++ [last])))

/-- The assertion holds for them. -/
def RunDerivable (wakes : List Boot) (last : Boot) : Prop :=
  Derivable (getPufBitFrequency last.inputs) (countOnes (samples (wakes ++ [last])))

instance (wakes : List Boot) (last : Boot) : Decidable (RunDerivable wakes last) :=
  inferInstanceAs (Decidable (Derivable _ _))

/-- A store holds the four blobs. -/
structure Holds (data : HelperData) (nvs : Nvs) : Prop where
  pufMask : nvs .pufMask = some data.pufMask
  pufSleepMask : nvs .pufSleepMask = some data.pufSleepMask
  eccSleepData : nvs .eccSleepData = some data.eccSleepData
  eccData : nvs .eccData = some data.eccData

theorem Holds.isEnrolled {data : HelperData} {nvs : Nvs} (holds : Holds data nvs) :
    isEnrolled nvs = true := by
  rw [RotIdentity.isEnrolled, holds.pufMask, holds.eccData]
  rfl

theorem holds_storeAll (data : HelperData) (nvs : Nvs) : Holds data (data.storeAll nvs) where
  pufMask := rfl
  pufSleepMask := rfl
  eccSleepData := rfl
  eccData := rfl

/-- Other keys do not matter. -/
theorem Holds.congr {data : HelperData} {nvs other : Nvs} (holds : Holds data nvs)
    (same : ∀ key, key ≠ .pufFrequency → other key = nvs key) : Holds data other where
  pufMask := (same _ (by decide)).trans holds.pufMask
  pufSleepMask := (same _ (by decide)).trans holds.pufSleepMask
  eccSleepData := (same _ (by decide)).trans holds.eccSleepData
  eccData := (same _ (by decide)).trans holds.eccData

/-- After its first part, the step of an enrolled node is over. -/
theorem step_resumes {inputs : Measurements} {nvs : Nvs} {stores : List Nvs} {memory after : Memory}
    (init : puflibInit inputs nvs memory = ⟨stores, after, .returned ()⟩)
    (enrolled : isEnrolled (stores.getLastD nvs) = true) :
    rotIdentityRunEnrollmentStep inputs nvs memory = ⟨stores, after, .returned true⟩ := by
  rw [rotIdentityRunEnrollmentStep, Program.bind_returned init _ rfl, Program.load_bind,
    if_pos enrolled]
  show Result.prepend stores ⟨[], after, .returned (isEnrolled (stores.getLastD nvs))⟩ = _
  rw [enrolled, Result.prepend_mk, List.append_nil]

/-- The last wake-up stores everything and goes on enrolled, or is stopped early. -/
theorem step_completes (boot : Boot) {wakes : List Boot} {nvs : Nvs}
    (counted : Counted (samples wakes) nvs) {memory : Memory} (sampling : memory.state = .provisioning)
    (progress : memory.iterationProgress = wakes.length)
    (last : wakes.length + 1 = provisioningMeasurements) :
    rotIdentityRunEnrollmentStep boot.inputs nvs memory =
      let stores := lastStores (samples (wakes ++ [boot])) (runData wakes boot) nvs
      let after := { memory with iterationProgress := wakes.length + 1 }
      if RunDerivable wakes boot then ⟨stores, after, .returned true⟩
      else ⟨stores.take 3, after, .aborted⟩ := by
  have few : (samples wakes).length < 65535 := by
    rw [samples_length]
    exact lt_of_lt_of_le (Nat.lt_succ_self _) (le_of_eq_of_le last (by decide))
  have init := provisionPufCalculate_last boot.inputs counted few
    { memory with iterationProgress := wakes.length + 1 } last
  rw [← samples_concat, ← progress, ← puflibInit_sampling boot.inputs nvs sampling, progress]
    at init
  by_cases derivable : RunDerivable wakes boot
  · rw [if_pos (show Derivable _ _ from derivable)] at init
    rw [if_pos derivable]
    exact step_resumes init rfl
  · rw [if_neg (show ¬ Derivable _ _ from derivable)] at init
    rw [if_neg derivable]
    exact Program.bind_aborted init _

/-- An enrolled node that is not in a run stays as it is, unless its reconstruction aborts. -/
theorem step_enrolled (inputs : Measurements) {nvs : Nvs} (enrolled : isEnrolled nvs = true)
    {memory : Memory} (idle : memory.state ≠ .provisioning) :
    ∃ after, rotIdentityRunEnrollmentStep inputs nvs memory = ⟨[], after, .returned true⟩ ∨
      rotIdentityRunEnrollmentStep inputs nvs memory = ⟨[], after, .aborted⟩ := by
  cases state : memory.state with
  | none =>
    exact ⟨memory, .inl (step_resumes (puflibInit_idle inputs nvs state) enrolled)⟩
  | provisioning => exact absurd state idle
  | pufResponseReset =>
    have quiet := @quiet_pufResponseResetCalculate (fun _ => False) inputs nvs memory
    have init : puflibInit inputs nvs memory = pufResponseResetCalculate inputs nvs memory := by
      rw [puflibInit, Program.inspect_bind, state]
    rcases calculated : pufResponseResetCalculate inputs nvs memory with
      ⟨stores, after, _ | _ | _⟩
    · rw [calculated] at quiet
      obtain rfl : stores = [] := quiet.1
      exact ⟨after, .inl (step_resumes (init.trans calculated) enrolled)⟩
    · rw [calculated] at quiet
      exact (quiet.2 rfl).elim
    · rw [calculated] at quiet
      obtain rfl : stores = [] := quiet.1
      exact ⟨after, .inr (Program.bind_aborted (init.trans calculated) _)⟩

/-- The step reports whether the node is enrolled by then. -/
theorem step_reports {inputs : Measurements} {nvs : Nvs} {memory after : Memory}
    {stores : List Nvs} {enrolled : Bool} (step : rotIdentityRunEnrollmentStep inputs nvs memory =
      ⟨stores, after, .returned enrolled⟩) : enrolled = isEnrolled (stores.getLastD nvs) := by
  obtain ⟨first, between, _, rest, init, continued, rfl⟩ := Program.bind_returned_inv step
  rw [Program.load_bind] at continued
  have last (earlier later : List Nvs) :
      (earlier ++ later).getLastD nvs = later.getLastD (earlier.getLastD nvs) := by
    cases later with
    | nil => simp
    | cons store rest => simp [List.getLast?_append]
  rw [last]
  split at continued
  · rename_i already
    cases continued
    rfl
  · obtain ⟨second, _, _, third, enroll, ended, rfl⟩ := Program.bind_returned_inv continued
    dsimp only at ended
    rw [Program.load_bind, Program.pure_apply, Result.mk.injEq] at ended
    obtain ⟨rfl, _, reported⟩ := ended
    rw [List.append_nil]
    exact (Outcome.returned.inj reported).symm

/-! ### Boots -/

/-- The node wakes up within a provisioning run that took a number of samples so far. -/
def WakesForSample (machine : Machine Nvs Memory) (boot : Boot) (progress : Nat) : Prop :=
  ∃ memory, node.woken boot machine = some memory ∧ memory.state = .provisioning ∧
    memory.iterationProgress = progress

/-- It wakes in a run. -/
theorem WakesForSample.state {machine : Machine Nvs Memory} {boot : Boot} {progress : Nat}
    (sample : WakesForSample machine boot progress) :
    (node.memoryAt boot machine).state = .provisioning := by
  obtain ⟨memory, woken, state, _⟩ := sample
  rw [Firmware.memoryAt, woken]
  exact state

/-- The node wakes up to retry a reconstruction. -/
def WakesToRetry (machine : Machine Nvs Memory) (boot : Boot) : Prop :=
  ∃ memory, node.woken boot machine = some memory ∧ Retrying memory

/-- It wakes with its state set. -/
theorem WakesToRetry.state {machine : Machine Nvs Memory} {boot : Boot}
    (retry : WakesToRetry machine boot) : Retrying (node.memoryAt boot machine) := by
  obtain ⟨memory, woken, state⟩ := retry
  rw [Firmware.memoryAt, woken]
  exact state

/-- A node that starts afresh, or to retry, is not in a run. -/
theorem idle_started {machine : Machine Nvs Memory} {boot : Boot}
    (why : node.woken boot machine = none ∨ WakesToRetry machine boot) :
    (node.memoryAt boot machine).state ≠ .provisioning := by
  rcases why with fresh | retry
  · rw [Firmware.memoryAt, fresh]
    decide
  · rw [retry.state]
    decide

/-- The boots of a provisioning run that began after `earlier`: `start`, which began it, and
the wake-ups since. -/
inductive ProvisioningRun (earlier : List Boot) (start : Boot) : List Boot → Prop where
  | begun (fresh : isEnrolled (after earlier).store = false)
      (idle : (node.memoryAt start (after earlier)).state = .none) :
      ProvisioningRun earlier start []
  | woken {wakes : List Boot} {boot : Boot} (run : ProvisioningRun earlier start wakes)
      (sample : WakesForSample (after (earlier ++ start :: wakes)) boot wakes.length) :
      ProvisioningRun earlier start (wakes ++ [boot])

/-- Why a node sleeps, given the boots so far: for the next sample of a run whose counters
are in NVS, or to retry a reconstruction. -/
inductive Dormant (history : List Boot) (nvs : Nvs) (memory : Memory) : Prop where
  | sampling {earlier : List Boot} {start : Boot} {wakes : List Boot}
      (boots : history = earlier ++ start :: wakes) (run : ProvisioningRun earlier start wakes)
      (fresh : isEnrolled nvs = false) (counted : Counted (samples wakes) nvs)
      (state : memory.state = .provisioning) (progress : memory.iterationProgress = wakes.length)
      (early : wakes.length < provisioningMeasurements)
  | retrying (enrolled : isEnrolled nvs = true) (state : Retrying memory)

/-- What a boot can do. -/
inductive BootCase (history : List Boot) (boot : Boot) : Prop where
  /-- It begins a provisioning run. -/
  | begins (fresh : isEnrolled (after history).store = false)
      (idle : (node.memoryAt boot (after history)).state = .none)
      (ran : node.result boot (after history) =
        ⟨[count [] (after history).store],
          { node.memoryAt boot (after history) with
            state := .provisioning
            iterationProgress := 0 }, .slept⟩)
  /-- It takes a sample of one. -/
  | samples {earlier : List Boot} {start : Boot} {wakes : List Boot}
      (boots : history = earlier ++ start :: wakes)
      (run : ProvisioningRun earlier start (wakes ++ [boot]))
      (sample : WakesForSample (after history) boot wakes.length)
      (counted : Counted (samples wakes) (after history).store)
      (fresh : isEnrolled (after history).store = false)
      (early : wakes.length + 1 < provisioningMeasurements)
      (ran : node.result boot (after history) =
        ⟨[count (samples (wakes ++ [boot])) (after history).store],
          { node.memoryAt boot (after history) with iterationProgress := wakes.length + 1 },
          .slept⟩)
  /-- It takes the last sample and completes the run. -/
  | completes {earlier : List Boot} {start : Boot} {wakes : List Boot}
      (boots : history = earlier ++ start :: wakes)
      (run : ProvisioningRun earlier start (wakes ++ [boot]))
      (sample : WakesForSample (after history) boot wakes.length)
      (counted : Counted (samples wakes) (after history).store)
      (fresh : isEnrolled (after history).store = false)
      (last : wakes.length + 1 = provisioningMeasurements) (derivable : RunDerivable wakes boot)
      (step : rotIdentityRunEnrollmentStep boot.inputs (after history).store
        (node.memoryAt boot (after history)) =
          ⟨lastStores (samples (wakes ++ [boot])) (runData wakes boot) (after history).store,
            { node.memoryAt boot (after history) with iterationProgress := wakes.length + 1 },
            .returned true⟩)
  /-- It takes the last sample and aborts. -/
  | stops {earlier : List Boot} {start : Boot} {wakes : List Boot} {memory : Memory}
      (boots : history = earlier ++ start :: wakes)
      (run : ProvisioningRun earlier start (wakes ++ [boot]))
      (sample : WakesForSample (after history) boot wakes.length)
      (counted : Counted (samples wakes) (after history).store)
      (fresh : isEnrolled (after history).store = false)
      (last : wakes.length + 1 = provisioningMeasurements) (underivable : ¬ RunDerivable wakes boot)
      (ran : node.result boot (after history) =
        ⟨(lastStores (samples (wakes ++ [boot])) (runData wakes boot) (after history).store).take 3,
          memory, .aborted⟩)
  /-- It was enrolled before and writes nothing. -/
  | rests (enrolled : isEnrolled (after history).store = true)
      (why : node.woken boot (after history) = none ∨ WakesToRetry (after history) boot)
      (silent : (node.result boot (after history)).stores = [])
      (dreams : (node.result boot (after history)).outcome = .slept →
        Retrying (node.result boot (after history)).memory)

/-- A boot whose step sleeps does nothing else. -/
theorem result_slept {boot : Boot} {machine : Machine Nvs Memory} {stores : List Nvs}
    {memory : Memory} (step : rotIdentityRunEnrollmentStep boot.inputs machine.store
      (node.memoryAt boot machine) = ⟨stores, memory, .slept⟩) :
    node.result boot machine = ⟨stores, memory, .slept⟩ :=
  Program.bind_slept step _

/-- Nor does one whose step aborts. -/
theorem result_aborted {boot : Boot} {machine : Machine Nvs Memory} {stores : List Nvs}
    {memory : Memory} (step : rotIdentityRunEnrollmentStep boot.inputs machine.store
      (node.memoryAt boot machine) = ⟨stores, memory, .aborted⟩) :
    node.result boot machine = ⟨stores, memory, .aborted⟩ :=
  Program.bind_aborted step _

/-- After the step, a boot writes nothing and sleeps to retry only. -/
theorem result_returned {boot : Boot} {machine : Machine Nvs Memory} {stores : List Nvs}
    {memory : Memory} {enrolled : Bool} (step : rotIdentityRunEnrollmentStep boot.inputs
      machine.store (node.memoryAt boot machine) = ⟨stores, memory, .returned enrolled⟩) :
    (node.result boot machine).stores = stores ∧ ((node.result boot machine).outcome = .slept →
      Retrying (node.result boot machine).memory) := by
  obtain ⟨silent, dreams⟩ := quiet_appMainEnrolled boot enrolled (stores.getLastD machine.store)
    memory
  have ran : node.result boot machine = (appMainEnrolled boot enrolled
      (stores.getLastD machine.store) memory).prepend stores := Program.bind_returned step _ rfl
  rw [ran, Result.prepend, silent, List.append_nil]
  exact ⟨rfl, dreams⟩

/-- Whatever boots came before, one of the cases holds. -/
theorem boot_cases (history : List Boot) (boot : Boot)
    (dormant : ∀ memory, (after history).asleep = some memory →
      Dormant history (after history).store memory) : BootCase history boot := by
  have resting (enrolled : isEnrolled (after history).store = true)
      (why : node.woken boot (after history) = none ∨ WakesToRetry (after history) boot) :
      BootCase history boot := by
    obtain ⟨memory, step | step⟩ := step_enrolled boot.inputs enrolled (idle_started why)
    · obtain ⟨silent, dreams⟩ := result_returned step
      exact .rests enrolled why silent dreams
    · have ran := result_aborted step
      exact .rests enrolled why (by rw [ran]) (by rw [ran]; exact nofun)
  cases woken : node.woken boot (after history) with
  | none =>
    have idle : (node.memoryAt boot (after history)).state = .none := by
      rw [Firmware.memoryAt, woken]
      rfl
    cases enrolled : isEnrolled (after history).store with
    | false =>
      exact .begins enrolled idle (result_slept (step_begins boot.inputs enrolled idle))
    | true => exact resting enrolled (.inl woken)
  | some memory =>
    have started : node.memoryAt boot (after history) = memory := node.memoryAt_woken woken
    obtain ⟨slept, asleep, rfl⟩ : ∃ slept, (after history).asleep = some slept ∧
        slept.wake = memory := by
      rw [Firmware.woken] at woken
      split at woken
      · cases woken
      · exact Option.map_eq_some_iff.mp woken
    cases dormant slept asleep with
    | retrying enrolled state => exact resting enrolled (.inr ⟨slept.wake, woken, state⟩)
    | @sampling earlier start wakes boots run fresh counted state progress early =>
      have here : WakesForSample (after history) boot wakes.length :=
        ⟨slept.wake, woken, state, progress⟩
      have longer := run.woken (boots ▸ here)
      by_cases last : wakes.length + 1 = provisioningMeasurements
      · have step := step_completes boot counted (show slept.wake.state = _ from state) progress last
        rw [← started] at step
        by_cases derivable : RunDerivable wakes boot
        · rw [if_pos derivable] at step
          exact .completes boots longer here counted fresh last derivable step
        · rw [if_neg derivable] at step
          exact .stops boots longer here counted fresh last derivable (result_aborted step)
      · have step := step_samples boot counted (show slept.wake.state = _ from state) progress
          (by omega)
        rw [← started] at step
        exact .samples boots longer here counted fresh (by omega) (result_slept step)

/-! ### A run without interruption -/

/-- The boot wakes up if the node slept, and keeps its power. -/
def Undisturbed (boot : Boot) : Prop := boot.coldStart = false ∧ boot.powerLoss = none

/-- A node in the middle of a provisioning run. -/
structure Sampling (wakes : List Boot) (machine : Machine Nvs Memory) (memory : Memory) : Prop where
  asleep : machine.asleep = some memory
  state : memory.state = .provisioning
  progress : memory.iterationProgress = wakes.length
  counted : Counted (samples wakes) machine.store

/-- It wakes up with what it slept with. -/
theorem woken_warm {machine : Machine Nvs Memory} {boot : Boot} {memory : Memory}
    (warm : boot.coldStart = false) (asleep : machine.asleep = some memory) :
    node.woken boot machine = some memory.wake := by
  rw [Firmware.woken, asleep, show node.coldStart boot = false from warm]
  rfl

/-- A cold, powered boot of a node that is not enrolled begins a run, and undisturbed boots
go on with it. -/
theorem run_progresses {earlier : List Boot} (fresh : isEnrolled (after earlier).store = false)
    {start : Boot} (cold : node.woken start (after earlier) = none) (powered : start.powerLoss = none)
    {wakes : List Boot} (undisturbed : ∀ boot ∈ wakes, Undisturbed boot)
    (early : wakes.length < provisioningMeasurements) :
    ∃ memory, Sampling wakes (after (earlier ++ start :: wakes)) memory := by
  induction wakes using List.reverseRecOn with
  | nil =>
    have idle : (node.memoryAt start (after earlier)).state = .none := by
      rw [Firmware.memoryAt, cold]
      rfl
    have ran := result_slept (step_begins start.inputs fresh idle)
    rw [after_boot, node.cycle_powered powered, ran]
    exact ⟨_, rfl, rfl, rfl, counted_count [] _⟩
  | append_singleton wakes boot inductionHypothesis =>
    have length : (wakes ++ [boot]).length = wakes.length + 1 := List.length_append
    obtain ⟨memory, sampling⟩ := inductionHypothesis
      (fun other member => undisturbed other (List.mem_append_left _ member)) (by omega)
    obtain ⟨warm, on⟩ := undisturbed boot (List.mem_append_right _ List.mem_cons_self)
    have woken := woken_warm warm sampling.asleep
    have started : node.memoryAt boot (after (earlier ++ start :: wakes)) = memory.wake :=
      node.memoryAt_woken woken
    have step := step_samples boot sampling.counted (show memory.wake.state = _ from sampling.state)
      sampling.progress (by omega)
    rw [← started] at step
    rw [show earlier ++ start :: (wakes ++ [boot]) = earlier ++ start :: wakes ++ [boot] by simp,
      after_boot, node.cycle_powered on, result_slept step]
    exact ⟨_, rfl, by rw [started]; exact sampling.state, length.symm, counted_count _ _⟩

/-- The boot after nineteen undisturbed wake-ups takes the last sample of the run. -/
theorem run_completes {earlier : List Boot} (fresh : isEnrolled (after earlier).store = false)
    {start : Boot} (cold : node.woken start (after earlier) = none) (powered : start.powerLoss = none)
    {wakes : List Boot} (undisturbed : ∀ boot ∈ wakes, Undisturbed boot)
    (whole : wakes.length + 1 = provisioningMeasurements) {last : Boot}
    (warm : last.coldStart = false) (derivable : RunDerivable wakes last) :
    WakesForSample (after (earlier ++ start :: wakes)) last wakes.length ∧
      Counted (samples wakes) (after (earlier ++ start :: wakes)).store ∧
      ∃ memory, rotIdentityRunEnrollmentStep last.inputs (after (earlier ++ start :: wakes)).store
        (node.memoryAt last (after (earlier ++ start :: wakes))) =
          ⟨lastStores (samples (wakes ++ [last])) (runData wakes last)
            (after (earlier ++ start :: wakes)).store, memory, .returned true⟩ := by
  obtain ⟨memory, sampling⟩ := run_progresses fresh cold powered undisturbed
    (show wakes.length < provisioningMeasurements by omega)
  have woken := woken_warm warm sampling.asleep
  have started : node.memoryAt last (after (earlier ++ start :: wakes)) = memory.wake :=
    node.memoryAt_woken woken
  have step := step_completes last sampling.counted
    (show memory.wake.state = _ from sampling.state) sampling.progress whole
  rw [if_pos derivable] at step
  rw [started]
  exact ⟨⟨memory.wake, woken, sampling.state, sampling.progress⟩, sampling.counted, _, step⟩

/-- Counts of samples that agree leave every bit stable. -/
theorem stableCount_constant (sample : Sram) :
    stableCount (countOnes (List.replicate provisioningMeasurements sample)) = pufMemorySize * 8 := by
  have stable : ∀ bit ∈ (countOnes (List.replicate provisioningMeasurements sample)).map stableBit,
      bit = true := by
    intro bit member
    obtain ⟨freq, counted, rfl⟩ := List.mem_map.mp member
    obtain ⟨bitNum, _, rfl⟩ := List.mem_map.mp counted
    rw [List.countP_replicate]
    cases arrayGetBit sample.bytes bitNum <;> rfl
  rw [stableCount, List.eq_replicate_iff.mpr ⟨rfl, stable⟩, List.count_replicate_self,
    List.length_map, countOnes_length]

/-- A run of agreeing samples derives its helper data. -/
theorem runDerivable_constant {wakes : List Boot} {last : Boot} {sample : Sram}
    (same : samples (wakes ++ [last]) = List.replicate provisioningMeasurements sample)
    (steady : ∀ measurement, last.inputs.rtcSram measurement = sample) :
    RunDerivable wakes last := by
  have rtc : getPufBitFrequency last.inputs =
      countOnes (List.replicate provisioningMeasurements sample) := by
    rw [getPufBitFrequency_eq]
    congr 1
    refine List.eq_replicate_iff.mpr ⟨by simp, fun other member => ?_⟩
    obtain ⟨measurement, _, rfl⟩ := List.mem_map.mp member
    exact steady measurement
  rw [RunDerivable, same, rtc, Derivable, helperBits, stableCount_constant]
  decide

/-! ### Histories -/

/-- A provisioning run with twenty wake-ups, the last of which stored what it derived. -/
structure CompletedRun (earlier : List Boot) (start : Boot) (wakes : List Boot) (last : Boot) :
    Prop where
  run : ProvisioningRun earlier start (wakes ++ [last])
  whole : (wakes ++ [last]).length = 20
  derivable : RunDerivable wakes last
  stores : (node.result last (after (earlier ++ start :: wakes))).stores =
    lastStores (samples (wakes ++ [last])) (runData wakes last)
      (after (earlier ++ start :: wakes)).store

/-- The four blobs are those of one completed run among the boots so far. -/
def EnrolledBy (history : List Boot) (nvs : Nvs) : Prop :=
  ∃ earlier start wakes last later, history = earlier ++ start :: wakes ++ last :: later ∧
    CompletedRun earlier start wakes last ∧ Holds (runData wakes last) nvs

theorem EnrolledBy.isEnrolled {history : List Boot} {nvs : Nvs} (enrolled : EnrolledBy history nvs) :
    isEnrolled nvs = true := by
  obtain ⟨_, _, _, _, _, _, _, holds⟩ := enrolled
  exact holds.isEnrolled

/-- What holds between two boots. Once `ECC_DATA` is there, so are all blobs of its run. -/
structure Consistent (history : List Boot) (machine : Machine Nvs Memory) : Prop where
  written : machine.store .eccData ≠ none → EnrolledBy history machine.store
  dormant : ∀ memory, machine.asleep = some memory → Dormant history machine.store memory

/-- Without enrollment there is no `ECC_DATA`. -/
theorem Consistent.unwritten {history : List Boot} {machine : Machine Nvs Memory}
    (consistent : Consistent history machine) (fresh : isEnrolled machine.store = false) :
    machine.store .eccData = none := by
  by_contra present
  rw [(consistent.written present).isEnrolled] at fresh
  cases fresh

/-- A store without `ECC_DATA` is not enrolled. -/
theorem isEnrolled_unwritten {nvs : Nvs} (unwritten : nvs .eccData = none) :
    isEnrolled nvs = false := by
  rw [isEnrolled, unwritten]
  exact Bool.and_false _

/-- Only from the fifth operation of the last boot on is there any `ECC_DATA`, and with it
everything else. -/
theorem lastStores_written {samples : List Sram} {data : HelperData} {nvs store : Nvs}
    (unwritten : nvs .eccData = none) (member : store ∈ nvs :: lastStores samples data nvs)
    (written : store .eccData ≠ none) : Holds data store := by
  simp only [lastStores, List.mem_cons, List.not_mem_nil, or_false] at member
  have holds := holds_storeAll data (count samples nvs)
  rcases member with rfl | rfl | rfl | rfl | rfl | rfl | rfl | rfl
  · exact absurd unwritten written
  · exact absurd unwritten written
  · exact absurd unwritten written
  · exact absurd unwritten written
  · exact absurd unwritten written
  · exact holds
  · exact holds.congr fun key other => Function.update_of_ne other _ _
  · refine holds.congr fun key other => ?_
    rw [Nvs.erase, Function.update_of_ne other, Nvs.put, Function.update_of_ne other]

/-- A boot that stores no `ECC_DATA` leaves none. -/
theorem cycle_unwritten {machine : Machine Nvs Memory} {boot : Boot}
    (unwritten : machine.store .eccData = none)
    (silent : ∀ store ∈ (node.result boot machine).stores, store .eccData = none) :
    (node.cycle machine boot).store .eccData = none := by
  rcases List.mem_cons.mp (node.cycle_store_mem boot machine) with same | member
  · rw [same]
    exact unwritten
  · exact silent _ member

/-- Counting stores none. -/
theorem count_unwritten {samples : List Sram} {nvs : Nvs} (unwritten : nvs .eccData = none) :
    ∀ store ∈ [count samples nvs], store .eccData = none := by
  intro store member
  rw [List.mem_singleton.mp member]
  exact unwritten

/-- Nor do the first operations of a last boot. -/
theorem lastStores_unwritten {samples : List Sram} {data : HelperData} {nvs : Nvs}
    (unwritten : nvs .eccData = none) :
    ∀ store ∈ (lastStores samples data nvs).take 3, store .eccData = none := by
  intro store member
  simp only [lastStores, List.take_succ_cons, List.take_zero, List.mem_cons, List.not_mem_nil,
    or_false] at member
  rcases member with rfl | rfl | rfl <;> exact unwritten

/-- Every boot preserves consistency.

Split along `boot_cases`. Before the run completes no store has `ECC_DATA`; where it does,
the store that is left is one of the seven of its last boot. -/
theorem consistent_cycle (history : List Boot) (boot : Boot)
    (consistent : Consistent history (after history)) :
    Consistent (history ++ [boot]) (node.cycle (after history) boot) := by
  cases boot_cases history boot consistent.dormant with
  | begins fresh idle ran =>
    have unwritten := cycle_unwritten (consistent.unwritten fresh)
      (by rw [ran]; exact count_unwritten (consistent.unwritten fresh))
    refine ⟨fun written => absurd unwritten written, fun memory asleep => ?_⟩
    obtain ⟨_, _, rfl, stored⟩ := node.cycle_asleep asleep
    rw [ran] at stored ⊢
    refine .sampling (show history ++ [boot] = history ++ boot :: [] from rfl) (.begun fresh idle)
      (isEnrolled_unwritten unwritten) ?_ rfl rfl (by decide)
    rw [stored]
    exact counted_count [] _
  | @samples earlier start wakes boots run sample counted fresh early ran =>
    have unwritten := cycle_unwritten (consistent.unwritten fresh)
      (by rw [ran]; exact count_unwritten (consistent.unwritten fresh))
    refine ⟨fun written => absurd unwritten written, fun memory asleep => ?_⟩
    obtain ⟨_, _, rfl, stored⟩ := node.cycle_asleep asleep
    rw [ran] at stored ⊢
    have longer : history ++ [boot] = earlier ++ start :: (wakes ++ [boot]) := by
      rw [boots, List.append_assoc, List.cons_append]
    have length : (wakes ++ [boot]).length = wakes.length + 1 := List.length_append
    refine .sampling longer run (isEnrolled_unwritten unwritten) ?_ sample.state length.symm
      (by omega)
    rw [stored]
    exact counted_count _ _
  | @completes earlier start wakes boots run sample counted fresh last derivable step =>
    obtain ⟨stores, dreams⟩ := result_returned step
    have unwritten := consistent.unwritten fresh
    have completed : CompletedRun earlier start wakes boot := by
      refine ⟨run, ?_, derivable, boots ▸ stores⟩
      rw [List.length_append]
      exact last
    have byRun (holds : Holds (runData wakes boot) (node.cycle (after history) boot).store) :
        EnrolledBy (history ++ [boot]) (node.cycle (after history) boot).store :=
      ⟨earlier, start, wakes, boot, [], by rw [boots], completed, holds⟩
    have left := node.cycle_store_mem boot (after history)
    rw [stores] at left
    refine ⟨fun written => byRun (lastStores_written unwritten left written), fun memory asleep => ?_⟩
    obtain ⟨_, slept, rfl, stored⟩ := node.cycle_asleep asleep
    refine .retrying ?_ (dreams slept)
    rw [stored, Result.store, stores]
    rfl
  | stops boots run sample counted fresh last underivable ran =>
    have unwritten := cycle_unwritten (consistent.unwritten fresh)
      (by rw [ran]; exact lastStores_unwritten (consistent.unwritten fresh))
    refine ⟨fun written => absurd unwritten written, fun memory asleep => ?_⟩
    obtain ⟨_, slept, _⟩ := node.cycle_asleep asleep
    rw [ran] at slept
    cases slept
  | rests enrolled why silent dreams =>
    have same := node.cycle_store_quiet silent
    have present : (after history).store .eccData ≠ none := by
      intro unwritten
      rw [isEnrolled_unwritten unwritten] at enrolled
      cases enrolled
    refine ⟨fun _ => ?_, fun memory asleep => ?_⟩
    · obtain ⟨earlier, start, wakes, last, later, boots, completed, holds⟩ :=
        consistent.written present
      refine ⟨earlier, start, wakes, last, later ++ [boot], ?_, completed, same ▸ holds⟩
      rw [boots, List.append_assoc, List.cons_append]
    · obtain ⟨_, slept, rfl, _⟩ := node.cycle_asleep asleep
      exact .retrying (same ▸ enrolled) (dreams slept)

/-- Every history is consistent. -/
theorem consistent_after (history : List Boot) : Consistent history (after history) :=
  node.cycles_induction Nvs.blank ⟨fun written => absurd rfl written, nofun⟩
    (fun history boot => consistent_cycle history boot) history

/-- No boot changes the store of an enrolled node. -/
theorem store_rests {history : List Boot} (enrolled : isEnrolled (after history).store = true)
    (later : List Boot) : (after (history ++ later)).store = (after history).store := by
  induction later using List.reverseRecOn with
  | nil => rw [List.append_nil]
  | append_singleton later boot inductionHypothesis =>
    have enrolledNow : isEnrolled (after (history ++ later)).store = true := by
      rw [inductionHypothesis]
      exact enrolled
    rw [← List.append_assoc, after_boot, ← inductionHypothesis]
    cases boot_cases (history ++ later) boot (consistent_after _).dormant with
    | rests _ _ silent _ => exact node.cycle_store_quiet silent
    | begins fresh | samples _ _ _ _ fresh | completes _ _ _ _ fresh | stops _ _ _ _ fresh =>
      rw [fresh] at enrolledNow
      cases enrolledNow

/-- The blobs that one run derives agree: the helper data has one length, and each mask
selects at least as many bits as it takes. -/
theorem helperData_agrees {pufFreqRtc pufFreqSleep : List Nat}
    (rtcSize : pufFreqRtc.length = pufMemorySize * 8)
    (sleepSize : pufFreqSleep.length = pufMemorySize * 8) :
    (helperData pufFreqRtc pufFreqSleep).eccSleepData.length =
        (helperData pufFreqRtc pufFreqSleep).eccData.length ∧
      8 * (helperData pufFreqRtc pufFreqSleep).eccData.length ≤
        hammingWeight (helperData pufFreqRtc pufFreqSleep).pufMask ∧
      8 * (helperData pufFreqRtc pufFreqSleep).eccData.length ≤
        hammingWeight (helperData pufFreqRtc pufFreqSleep).pufSleepMask := by
  obtain ⟨fewRtc, fewSleep⟩ := helperBits_le pufFreqRtc pufFreqSleep
  have whole := helperBits_whole pufFreqRtc pufFreqSleep
  obtain ⟨eccLength, eccSleepLength⟩ := helperData_length pufFreqRtc pufFreqSleep
  have weighs {pufFreq : List Nat} (size : pufFreq.length = pufMemorySize * 8) :
      hammingWeight (packBytes (pufFreq.map stableBit)) = stableCount pufFreq := by
    rw [hammingWeight_readBits, readBits_counts size]
    rfl
  rw [eccLength, eccSleepLength]
  refine ⟨rfl, ?_, ?_⟩
  · rw [show (helperData pufFreqRtc pufFreqSleep).pufMask = packBytes (pufFreqRtc.map stableBit)
      from rfl, weighs rtcSize]
    omega
  · rw [show (helperData pufFreqRtc pufFreqSleep).pufSleepMask =
      packBytes (pufFreqSleep.map stableBit) from rfl, weighs sleepSize]
    omega

/-- Whenever the node is enrolled, all four blobs are there, they were stored by the last boot
of one provisioning run from the counts of its twenty wake-ups, they fit together, and
whatever happens later leaves them as they are. -/
theorem enrolled_once (history : List Boot) (enrolled : isEnrolled (after history).store = true) :
    (∃ earlier start wakes last later, history = earlier ++ start :: wakes ++ last :: later ∧
      CompletedRun earlier start wakes last ∧ Holds (runData wakes last) (after history).store) ∧
    (∃ pufMask pufSleepMask eccSleepData eccData,
      (after history).store .pufMask = some pufMask ∧
      (after history).store .pufSleepMask = some pufSleepMask ∧
      (after history).store .eccSleepData = some eccSleepData ∧
      (after history).store .eccData = some eccData ∧
      eccSleepData.length = eccData.length ∧ 8 * eccData.length ≤ hammingWeight pufMask ∧
      8 * eccData.length ≤ hammingWeight pufSleepMask) ∧
    ∀ later key, (after (history ++ later)).store key = (after history).store key := by
  have present : (after history).store .eccData ≠ none := by
    intro unwritten
    rw [isEnrolled_unwritten unwritten] at enrolled
    cases enrolled
  have byRun := (consistent_after history).written present
  refine ⟨byRun, ?_, fun later key => congrFun (store_rests enrolled later) key⟩
  obtain ⟨earlier, start, wakes, last, later, boots, completed, holds⟩ := byRun
  have rtcSize : (getPufBitFrequency last.inputs).length = pufMemorySize * 8 := by
    rw [getPufBitFrequency_eq, countOnes_length]
  exact ⟨_, _, _, _, holds.pufMask, holds.pufSleepMask, holds.eccSleepData, holds.eccData,
    helperData_agrees rtcSize (countOnes_length _)⟩

/-- A boot whose measurements are all ones. -/
def onesBoot : Boot :=
  let ones : Sram := ⟨List.replicate pufMemorySize 0xFF, List.length_replicate⟩
  { inputs := ⟨ones, fun _ => ones, ones⟩ }

/-- Nineteen wake-ups after the first boot. -/
def onesWakes : List Boot := List.replicate 19 onesBoot

theorem onesWakes_undisturbed : ∀ boot ∈ onesWakes, Undisturbed boot := by
  intro boot member
  rw [List.eq_of_mem_replicate member]
  exact ⟨rfl, rfl⟩

theorem onesWakes_derivable {last : Boot} (same : last.inputs = onesBoot.inputs) :
    RunDerivable onesWakes last := by
  refine @runDerivable_constant _ _ onesBoot.inputs.pufBuffer ?_ fun _ => by rw [same]; rfl
  rw [samples_concat, same, samples, onesWakes, List.map_replicate]
  rfl

/-- The last boot of a run of ones. -/
theorem onesRun {last : Boot} (same : last.inputs = onesBoot.inputs) (warm : last.coldStart = false) :
    WakesForSample (after (onesBoot :: onesWakes)) last 19 ∧
      Counted (samples onesWakes) (after (onesBoot :: onesWakes)).store ∧
      ∃ memory, rotIdentityRunEnrollmentStep last.inputs (after (onesBoot :: onesWakes)).store
        (node.memoryAt last (after (onesBoot :: onesWakes))) =
          ⟨lastStores (samples (onesWakes ++ [last])) (runData onesWakes last)
            (after (onesBoot :: onesWakes)).store, memory, .returned true⟩ :=
  @run_completes [] rfl onesBoot rfl rfl onesWakes onesWakes_undisturbed rfl last warm
    (onesWakes_derivable same)

/-- After twenty-one such boots the node is enrolled. -/
theorem ones_enrolled : isEnrolled (after (onesBoot :: onesWakes ++ [onesBoot])).store = true := by
  obtain ⟨_, _, memory, step⟩ := @onesRun onesBoot rfl rfl
  rw [after_boot, node.cycle_powered (show node.powerLoss onesBoot = none from rfl),
    Result.store, (result_returned step).1]
  rfl

/-- It is so by the run they make up. -/
theorem ones_enrolled_once :
    isEnrolled (after (onesBoot :: onesWakes ++ [onesBoot])).store = true ∧
      EnrolledBy (onesBoot :: onesWakes ++ [onesBoot])
        (after (onesBoot :: onesWakes ++ [onesBoot])).store := by
  exact ⟨ones_enrolled, (enrolled_once _ ones_enrolled).1⟩

end Microgrid.AppMain
