import Microgrid.Puf.EnrollmentRuns

/-!
# What is left of the counters

The counters of a provisioning run are raw measurements. They are overwritten and erased
after the helper data is stored, so a node whose power fails between the fifth and the
sixth operation of the last boot of a run is enrolled and keeps them. Nothing erases
them afterwards: an enrolled node writes nothing.

That one cut is the only one. `counters_erased` excludes it and has the counters gone
whenever the enrollment step returns true; `counters_kept` has them stay for good.
-/

namespace Microgrid.AppMain

open CrashPrograms Puf Puflib RotIdentity

/-- `PUF_FREQUENCY` is absent or holds only zeros. -/
def Erased (nvs : Nvs) : Prop := ∀ blob, nvs .pufFrequency = some blob → ∀ byte ∈ blob, byte = 0

/-- In a boot, the enrollment step returns true before power fails. -/
def StepReturnsTrue (machine : Machine Nvs Memory) (boot : Boot) : Prop :=
  let step := rotIdentityRunEnrollmentStep boot.inputs machine.store (node.memoryAt boot machine)
  step.outcome = .returned true ∧ ∀ count, boot.powerLoss = some count → step.stores.length ≤ count

/-- The node wakes up for the last sample of a run, which leaves helper data to store and
counters that are not all zero, and loses power after the fifth operation on NVS. -/
def CutsErasure (machine : Machine Nvs Memory) (boot : Boot) : Prop :=
  WakesForSample machine boot 19 ∧ boot.powerLoss = some 5 ∧
    ∃ blob, machine.store .pufFrequency = some blob ∧
      Derivable (getPufBitFrequency boot.inputs)
        (addSample (frequencies blob) boot.inputs.pufBuffer) ∧
      addSample (frequencies blob) boot.inputs.pufBuffer ≠ zeroFrequencies

/-- The counters of a run count as erased only if they are all zero. -/
theorem erased_counted {samples : List Sram} (few : samples.length < 65536) {nvs : Nvs}
    (counted : Counted samples nvs) : Erased nvs ↔ countOnes samples = zeroFrequencies := by
  constructor
  · intro erased
    have zero : frequencyBytes (countOnes samples) = frequencyBytes zeroFrequencies := by
      rw [frequencyBytes_zero]
      exact List.eq_replicate_iff.mpr
        ⟨frequencyBytes_countOnes_length samples, erased _ counted⟩
    have read := congrArg frequencies zero
    rw [frequencies_countOnes few, ← countOnes_nil,
      frequencies_countOnes (show ([] : List Sram).length < 65536 by decide)] at read
    exact read.trans countOnes_nil
  · intro zero blob present byte member
    rw [counted] at present
    rw [← Option.some.inj present, zero, frequencyBytes_zero] at member
    exact List.eq_of_mem_replicate member

/-- Of the stores that a last boot can leave behind, only the fifth is enrolled with its
counters. -/
theorem lastStores_erased {samples : List Sram} {data : HelperData} {nvs : Nvs}
    (unwritten : nvs .eccData = none) {cut : Nat} (other : cut ≠ 5)
    (enrolled : isEnrolled (((lastStores samples data nvs).take cut).getLastD nvs) = true) :
    Erased (((lastStores samples data nvs).take cut).getLastD nvs) := by
  have early (store : Nvs) (absent : store .eccData = none) (already : isEnrolled store = true) :
      Erased store := by
    rw [isEnrolled_unwritten absent] at already
    cases already
  have zeroed (store : Nvs) : Erased (store.put .pufFrequency (List.replicate frequencyLen 0)) := by
    intro blob present byte member
    obtain rfl := Option.some.inj present
    exact List.eq_of_mem_replicate member
  rcases cut with _ | _ | _ | _ | _ | _ | _ | cut
  · exact early _ unwritten enrolled
  · exact early _ unwritten enrolled
  · exact early _ unwritten enrolled
  · exact early _ unwritten enrolled
  · exact early _ unwritten enrolled
  · exact absurd rfl other
  · exact zeroed _
  · intro blob present
    have absent : (((lastStores samples data nvs).take (cut + 7)).getLastD nvs) .pufFrequency =
        none := by
      rw [List.take_of_length_le (show (lastStores samples data nvs).length ≤ cut + 7 from
        Nat.le_add_left 7 cut)]
      rfl
    rw [absent] at present
    cases present

/-- A wake-up takes one particular sample. -/
theorem WakesForSample.unique {machine : Machine Nvs Memory} {boot : Boot} {progress other : Nat}
    (sample : WakesForSample machine boot progress) (same : WakesForSample machine boot other) :
    progress = other := by
  obtain ⟨memory, woken, _, rfl⟩ := sample
  obtain ⟨memory', woken', _, rfl⟩ := same
  rw [woken] at woken'
  rw [Option.some.inj woken']

/-- The counters of a last boot with its own sample. -/
theorem recounted {wakes : List Boot} {last : Boot} {nvs : Nvs}
    (counted : Counted (samples wakes) nvs) (whole : wakes.length + 1 = provisioningMeasurements)
    {blob : Bytes} (present : nvs .pufFrequency = some blob) :
    addSample (frequencies blob) last.inputs.pufBuffer = countOnes (samples (wakes ++ [last])) := by
  have few : (samples wakes).length < 65535 := by
    rw [samples_length]
    exact lt_of_lt_of_le (Nat.lt_succ_self _) (le_of_eq_of_le whole (by decide))
  rw [counted] at present
  rw [← Option.some.inj present, frequencies_countOnes (by omega), addSample_countOnes _ _ few,
    samples_concat]

/-- All twenty samples fit into the counters. -/
theorem samples_few {wakes : List Boot} {last : Boot}
    (whole : wakes.length + 1 = provisioningMeasurements) :
    (samples (wakes ++ [last])).length < 65536 := by
  rw [samples_length, List.length_append]
  exact lt_of_eq_of_lt whole (by decide)

/-- A cut leaves an enrolled node with its counters. -/
theorem cut_keeps {history : List Boot} {cut : Boot} (cuts : CutsErasure (after history) cut) :
    isEnrolled (after (history ++ [cut])).store = true ∧
      ¬ Erased (after (history ++ [cut])).store := by
  obtain ⟨sample, lost, blob, present, derivable, nonzero⟩ := cuts
  cases boot_cases history cut (consistent_after history).dormant with
  | begins _ idle =>
    rw [sample.state] at idle
    cases idle
  | samples _ _ here _ _ early =>
    rw [← sample.unique here] at early
    exact absurd early (by decide)
  | @completes earlier start wakes _ _ here counted _ whole _ step =>
    have stores := (result_returned step).1
    have left : (after (history ++ [cut])).store =
        (runData wakes cut).storeAll (count (samples (wakes ++ [cut])) (after history).store) := by
      rw [after_boot, node.cycle_powerLoss lost, Result.storeAfter, stores]
      rfl
    have kept : Counted (samples (wakes ++ [cut])) ((runData wakes cut).storeAll
        (count (samples (wakes ++ [cut])) (after history).store)) :=
      counted_count (samples (wakes ++ [cut])) (after history).store
    rw [recounted counted whole present] at nonzero
    rw [left]
    exact ⟨(holds_storeAll _ _).isEnrolled,
      fun erased => nonzero ((erased_counted (samples_few whole) kept).mp erased)⟩
  | stops _ _ _ counted _ whole underivable =>
    rw [recounted counted whole present] at derivable
    exact absurd derivable underivable
  | rests _ why => exact absurd sample.state (idle_started why)

/-- No boot of a history cuts an erasure short. -/
def Uncut (history : List Boot) : Prop :=
  ∀ earlier boot later, history = earlier ++ boot :: later → ¬ CutsErasure (after earlier) boot

/-- Without such a cut, an enrolled node has its counters erased. -/
theorem erased_enrolled {history : List Boot} (uncut : Uncut history)
    (enrolled : isEnrolled (after history).store = true) : Erased (after history).store := by
  induction history using List.reverseRecOn with
  | nil => cases enrolled
  | append_singleton history boot inductionHypothesis =>
    have uncutBefore : Uncut history := fun earlier cut later boots =>
      uncut earlier cut (later ++ [boot]) (by rw [boots, List.append_assoc, List.cons_append])
    have uncutNow : ¬ CutsErasure (after history) boot := uncut history boot [] rfl
    have consistent := consistent_after history
    have unwritten := consistent.unwritten
    have impossible (silent : (node.cycle (after history) boot).store .eccData = none) :
        Erased (node.cycle (after history) boot).store := by
      rw [after_boot, isEnrolled_unwritten silent] at enrolled
      cases enrolled
    rw [after_boot] at enrolled ⊢
    cases boot_cases history boot consistent.dormant with
    | begins fresh _ ran =>
      exact impossible (cycle_unwritten (unwritten fresh)
        (by rw [ran]; exact count_unwritten (unwritten fresh)))
    | samples _ _ _ _ fresh _ ran =>
      exact impossible (cycle_unwritten (unwritten fresh)
        (by rw [ran]; exact count_unwritten (unwritten fresh)))
    | stops _ _ _ _ fresh _ _ ran =>
      exact impossible (cycle_unwritten (unwritten fresh)
        (by rw [ran]; exact lastStores_unwritten (unwritten fresh)))
    | @completes earlier start wakes _ _ here counted fresh whole derivable step =>
      have stores := (result_returned step).1
      cases lost : boot.powerLoss with
      | none =>
        rw [node.cycle_powered lost, Result.store, stores] at enrolled ⊢
        exact @lastStores_erased _ _ _ (unwritten fresh) 7 (by decide) enrolled
      | some count =>
        rw [node.cycle_powerLoss lost, Result.storeAfter, stores] at enrolled ⊢
        by_cases fifth : count = 5
        · subst fifth
          have kept : Counted (samples (wakes ++ [boot])) ((runData wakes boot).storeAll
              (Puflib.count (samples (wakes ++ [boot])) (after history).store)) :=
            counted_count (samples (wakes ++ [boot])) (after history).store
          apply (erased_counted (samples_few whole) kept).mpr
          by_contra nonzero
          refine uncutNow ⟨(Nat.succ.inj whole) ▸ here, lost, _, counted, ?_, ?_⟩
          · rw [recounted counted whole counted]
            exact derivable
          · rw [recounted counted whole counted]
            exact nonzero
        · exact lastStores_erased (unwritten fresh) fifth enrolled
    | rests already _ silent =>
      rw [node.cycle_store_quiet silent]
      exact inductionHypothesis uncutBefore already

/-- Where the enrollment step returns true, the node is enrolled. -/
theorem StepReturnsTrue.enrolled {history : List Boot} {boot : Boot}
    (returns : StepReturnsTrue (after history) boot) :
    isEnrolled (after (history ++ [boot])).store = true := by
  obtain ⟨ended, powered⟩ := returns
  rcases step : rotIdentityRunEnrollmentStep boot.inputs (after history).store
    (node.memoryAt boot (after history)) with ⟨stores, memory, outcome⟩
  rw [step] at ended powered
  obtain rfl : outcome = .returned true := ended
  have reported := step_reports step
  have same := (result_returned step).1
  have left : (node.cycle (after history) boot).store = stores.getLastD (after history).store := by
    cases lost : boot.powerLoss with
    | none => rw [node.cycle_powered lost, Result.store, same]
    | some count =>
      rw [node.cycle_powerLoss lost, Result.storeAfter, same,
        List.take_of_length_le (powered count lost)]
  rw [after_boot, left]
  exact reported.symm

/-- An enrolled node that starts cold returns true at once. -/
theorem cold_returns {machine : Machine Nvs Memory} (enrolled : isEnrolled machine.store = true)
    {boot : Boot} (cold : boot.coldStart = true) : StepReturnsTrue machine boot := by
  have started : node.memoryAt boot machine = {} := by
    rw [Firmware.memoryAt, Firmware.woken, if_pos (show node.coldStart boot = true from cold)]
    rfl
  have init : puflibInit boot.inputs machine.store (node.memoryAt boot machine) =
      ⟨[], {}, .returned ()⟩ := by
    rw [started]
    rfl
  have step := step_resumes init enrolled
  rw [StepReturnsTrue, step]
  exact ⟨rfl, fun _ _ => Nat.zero_le _⟩

/-- After a cut, every cold start has the step return true. -/
theorem cut_returns {history : List Boot} {cut : Boot} (cuts : CutsErasure (after history) cut)
    (between : List Boot) {boot : Boot} (cold : boot.coldStart = true) :
    StepReturnsTrue (after (history ++ [cut] ++ between)) boot := by
  have enrolled := (cut_keeps cuts).1
  refine cold_returns ?_ cold
  rw [store_rests enrolled between]
  exact enrolled

/-- Once the enrollment step has returned true, the counters are gone for good if no boot so
far was such a cut, and are there for good if one was. -/
theorem counters_erased_unless_cut (history : List Boot) (boot : Boot)
    (returns : StepReturnsTrue (after history) boot) (later : List Boot) :
    Erased (after (history ++ [boot] ++ later)).store ↔ Uncut (history ++ [boot]) := by
  have enrolled := returns.enrolled
  rw [store_rests enrolled later]
  constructor
  · intro erased earlier cut rest boots cuts
    obtain ⟨enrolledThen, kept⟩ := cut_keeps cuts
    rw [boots, List.append_cons, store_rests enrolledThen rest] at erased
    exact kept erased
  · intro uncut
    exact erased_enrolled uncut enrolled

/-- Power fails in the last boot of a run of ones, after the fifth operation on NVS. -/
def cutBoot : Boot := { onesBoot with powerLoss := some 5 }

/-- The next boot starts cold. -/
def coldBoot : Boot := { onesBoot with coldStart := true }

theorem cutBoot_cuts : CutsErasure (after (onesBoot :: onesWakes)) cutBoot := by
  obtain ⟨sample, counted, _⟩ := @onesRun cutBoot rfl rfl
  refine ⟨sample, rfl, _, counted, ?_, ?_⟩
  · rw [recounted counted rfl counted]
    exact onesWakes_derivable rfl
  · rw [recounted counted rfl counted]
    intro zero
    have bit : arrayGetBit onesBoot.inputs.pufBuffer.bytes 0 = true := rfl
    have agree : samples (onesWakes ++ [cutBoot]) = List.replicate 20 onesBoot.inputs.pufBuffer := rfl
    have member : 20 ∈ countOnes (samples (onesWakes ++ [cutBoot])) := by
      refine List.mem_map.mpr ⟨0, List.mem_range.mpr (by decide), ?_⟩
      rw [agree, List.countP_replicate, if_pos bit]
    rw [zero] at member
    exact absurd (List.eq_of_mem_replicate member) (by decide)

/-- The raw counts outlive such an enrollment: the step returns true with them in NVS. -/
theorem counters_outlive_enrollment :
    StepReturnsTrue (after (onesBoot :: onesWakes ++ [cutBoot])) coldBoot ∧
      ¬ Erased (after (onesBoot :: onesWakes ++ [cutBoot] ++ [coldBoot])).store := by
  obtain ⟨enrolled, kept⟩ := cut_keeps cutBoot_cuts
  rw [store_rests enrolled [coldBoot]]
  exact ⟨cold_returns enrolled rfl, kept⟩

theorem ones_uncut : Uncut (onesBoot :: onesWakes ++ [onesBoot]) := by
  intro earlier boot later boots cuts
  have lost := cuts.2.1
  have member : boot ∈ onesBoot :: onesWakes ++ [onesBoot] := by
    rw [boots]
    exact List.mem_append_right _ List.mem_cons_self
  have ones : onesBoot :: onesWakes ++ [onesBoot] = List.replicate 21 onesBoot := rfl
  rw [ones] at member
  rw [List.eq_of_mem_replicate member] at lost
  cases lost

/-- A run of ones whose boots keep their power ends with the counters erased; the same run
with the cut keeps them. -/
theorem ones_erased_unless_cut :
    Erased (after (onesBoot :: onesWakes ++ [onesBoot] ++ [])).store ∧
      ¬ Erased (after (onesBoot :: onesWakes ++ [cutBoot] ++ [] ++ [coldBoot] ++ [])).store := by
  obtain ⟨_, _, memory, step⟩ := @onesRun onesBoot rfl rfl
  have returns : StepReturnsTrue (after (onesBoot :: onesWakes)) onesBoot := by
    rw [StepReturnsTrue, step]
    exact ⟨rfl, nofun⟩
  constructor
  · exact (counters_erased_unless_cut _ onesBoot returns []).mpr ones_uncut
  · intro erased
    have uncut := (counters_erased_unless_cut _ coldBoot (cut_returns cutBoot_cuts [] rfl) []).mp
      erased
    exact uncut _ cutBoot [coldBoot] (by simp) cutBoot_cuts

end Microgrid.AppMain
