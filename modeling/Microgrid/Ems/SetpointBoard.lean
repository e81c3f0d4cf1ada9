import Microgrid.Ems.EmsCoordinator
import Microgrid.Foundation.KeyedLogs

/-!
# The setpoints as a log of writes

Two operations write setpoints: an update, which infers one for every label of the store and
stops at the first that raises, and the manual override. Each write is of one label, with its
time. Whatever the operations and their order, a label has the setpoint that was written to it
last, and every setpoint is a whole number of tenths between 0 W and 100 W: both operations
clamp, and NaN comes out of the clamp as 100 W. The default of `get_setpoint` is never used.
-/

namespace Microgrid.Ems

open PythonValues KeyedLogs

/-- `max(_MIN_SP, min(_MAX_SP, value))`. -/
def clamp (value : PyFloat) : PyFloat :=
  PyFloat.pyMax (.finite minSp) (PyFloat.pyMin (.finite maxSp) value)

namespace EMSCoordinator

/-- `set_manual_setpoint`, at the server's time `now`. -/
def setManualSetpoint (ems : EMSCoordinator) (nodeLabel : String) (pDemand : PyFloat) (now : ℚ) :
    EMSCoordinator :=
  let pDemand := clamp pDemand
  ⟨ems.setpoints.set nodeLabel pDemand.round1, ems.lastUpdate.set nodeLabel now⟩

/-- `get_all_setpoints`, which is what `summary` shows. -/
def getAllSetpoints (ems : EMSCoordinator) : Dict PyFloat := ems.setpoints

end EMSCoordinator

/-- What writes setpoints. -/
inductive SetpointOperation where
  | update (store : DataStore) (now : ℚ)
  | manual (nodeLabel : String) (pDemand : PyFloat) (now : ℚ)

/-- The coordinator after an operation. -/
def SetpointOperation.apply (ems : EMSCoordinator) : SetpointOperation → EMSCoordinator
  | .update store now => (ems.update store now).1
  | .manual nodeLabel pDemand now => ems.setManualSetpoint nodeLabel pDemand now

/-- A setpoint and its time, under the label it is written to. -/
abbrev SetpointWrite := String × PyFloat × ℚ

/-- The setpoints that the loop of an update infers, up to the first that raises. -/
def inferredWrites (vBusError : PyFloat) (pDemand : PyNumber) (now : ℚ) :
    Fields Reading → List SetpointWrite
  | [] => []
  | (node, reading) :: rest =>
    match nodeSetpoint vBusError pDemand reading with
    | .error _ => []
    | .ok sp => (node, sp, now) :: inferredWrites vBusError pDemand now rest

/-- What an operation writes. It does not depend on what was written before. -/
def SetpointOperation.writes : SetpointOperation → List SetpointWrite
  | .update store now =>
    match vBusError store.latest, pDemand store.latest with
    | .ok error, .ok demand => inferredWrites error demand now store.latest.entries
    | _, _ => []
  | .manual nodeLabel pDemand now =>
    [(nodeLabel, (clamp pDemand).round1, now)]

/-- The coordinator after some operations. -/
def operated (operations : List SetpointOperation) : EMSCoordinator :=
  operations.foldl SetpointOperation.apply .init

/-- The setpoints written to a label, with their times. -/
def writesTo (nodeLabel : String) (operations : List SetpointOperation) : List (PyFloat × ℚ) :=
  entriesOf nodeLabel (operations.flatMap SetpointOperation.writes)

/-- The coordinator holds of each label the last write to it. -/
structure LastWrites (ems : EMSCoordinator) (log : List SetpointWrite) : Prop where
  setpoints : ∀ nodeLabel, ems.setpoints.get? nodeLabel =
    (entriesOf nodeLabel log).getLast?.map Prod.fst
  lastUpdate : ∀ nodeLabel, ems.lastUpdate.get? nodeLabel =
    (entriesOf nodeLabel log).getLast?.map Prod.snd

/-- A write replaces what its label had and leaves the other labels. -/
theorem LastWrites.write {ems : EMSCoordinator} {log : List SetpointWrite}
    (holds : LastWrites ems log) (nodeLabel : String) (sp : PyFloat) (now : ℚ) :
    LastWrites ⟨ems.setpoints.set nodeLabel sp, ems.lastUpdate.set nodeLabel now⟩
      (log ++ [(nodeLabel, sp, now)]) := by
  constructor
  · intro other
    by_cases same : other = nodeLabel
    · rw [same, Dict.get?_set_self, entriesOf_append_self, List.getLast?_concat]
      rfl
    · rw [Dict.get?_set_ne _ same, entriesOf_append_ne same]
      exact holds.setpoints other
  · intro other
    by_cases same : other = nodeLabel
    · rw [same, Dict.get?_set_self, entriesOf_append_self, List.getLast?_concat]
      rfl
    · rw [Dict.get?_set_ne _ same, entriesOf_append_ne same]
      exact holds.lastUpdate other

/-- The loop of an update makes the writes it infers. -/
theorem LastWrites.updateNodes {error : PyFloat} {demand : PyNumber} {now : ℚ}
    (nodes : Fields Reading) {ems : EMSCoordinator} {log : List SetpointWrite}
    (holds : LastWrites ems log) :
    LastWrites (EMSCoordinator.updateNodes error demand now nodes ems).1
      (log ++ inferredWrites error demand now nodes) := by
  induction nodes generalizing ems log with
  | nil =>
    rw [inferredWrites, List.append_nil]
    exact holds
  | cons head rest inductionHypothesis =>
    obtain ⟨node, reading⟩ := head
    rw [inferredWrites, EMSCoordinator.updateNodes]
    cases nodeSetpoint error demand reading with
    | error exception =>
      rw [List.append_nil]
      exact holds
    | ok sp =>
      have next := inductionHypothesis (holds.write node sp now)
      rw [List.append_assoc, List.singleton_append] at next
      exact next

/-- An update is its loop, if the mean and the total can be computed. -/
theorem update_loop (ems : EMSCoordinator) (store : DataStore) (now : ℚ) :
    (ems.update store now).1 = match vBusError store.latest, pDemand store.latest with
      | .ok error, .ok demand =>
        (EMSCoordinator.updateNodes error demand now store.latest.entries ems).1
      | _, _ => ems := by
  unfold EMSCoordinator.update DataStore.getAllLatest
  by_cases empty : store.latest.entries.isEmpty = true
  · have nothing : store.latest.entries = [] := List.isEmpty_iff.mp empty
    rw [if_pos empty, nothing]
    split
    · rfl
    · rfl
  · rw [if_neg empty]
    cases vBusError store.latest with
    | error exception => rfl
    | ok error => cases pDemand store.latest <;> rfl

/-- An operation makes its writes. -/
theorem LastWrites.apply {ems : EMSCoordinator} {log : List SetpointWrite}
    (holds : LastWrites ems log) (operation : SetpointOperation) :
    LastWrites (operation.apply ems) (log ++ operation.writes) := by
  cases operation with
  | manual nodeLabel pDemand now => exact holds.write _ _ _
  | update store now =>
    rw [SetpointOperation.apply, SetpointOperation.writes, update_loop]
    cases vBusError store.latest with
    | error exception =>
      rw [List.append_nil]
      exact holds
    | ok error =>
      cases pDemand store.latest with
      | error exception =>
        rw [List.append_nil]
        exact holds
      | ok demand => exact holds.updateNodes store.latest.entries

/-- After any operations, the coordinator holds the last writes. -/
theorem lastWrites_operated (operations : List SetpointOperation) :
    LastWrites (operated operations) (operations.flatMap SetpointOperation.writes) := by
  induction operations using List.reverseRecOn with
  | nil => exact ⟨fun _ => rfl, fun _ => rfl⟩
  | append_singleton operations operation inductionHypothesis =>
    have next := inductionHypothesis.apply operation
    rw [operated, List.foldl_append, ← operated, List.flatMap_append, List.flatMap_singleton]
    exact next

/-! ### What a setpoint can be -/

/-- A whole number of tenths between 0 W and 100 W. -/
def InRange (sp : PyFloat) : Prop :=
  ∃ tenths : ℤ, sp = .finite (tenths / 10) ∧ 0 ≤ tenths ∧ tenths ≤ 1000

/-- Rounding keeps the range. -/
theorem inRange_round1 {watts : ℚ} (nonneg : 0 ≤ watts) (most : watts ≤ 100) :
    InRange (PyFloat.finite watts).round1 := by
  obtain ⟨tenths, rounded, near⟩ := PyFloat.round1_near watts
  obtain ⟨below, above⟩ := abs_le.mp near
  refine ⟨tenths, rounded, ?_, ?_⟩
  · have atLeast : (-1 : ℚ) < tenths := by linarith
    have whole : -1 < tenths := by exact_mod_cast atLeast
    omega
  · have atMost : (tenths : ℚ) < 1001 := by linarith
    have whole : tenths < 1001 := by exact_mod_cast atMost
    omega

/-- The clamp yields one of the bounds, or the value if that lies between them. NaN is not
below the upper bound, so it yields that. -/
theorem clamp_cases (value : PyFloat) :
    clamp value = .finite 0 ∨ clamp value = .finite 100 ∨
      ∃ watts : ℚ, value = .finite watts ∧ clamp value = .finite watts ∧ 0 ≤ watts ∧ watts ≤ 100 := by
  have least : minSp = 0 := by norm_num [minSp]
  have most : maxSp = 100 := by norm_num [maxSp]
  have upper : PyFloat.pyMax (.finite minSp) (.finite maxSp) = .finite 100 := by
    rw [PyFloat.pyMax_finite, least, most, max_eq_right (by norm_num)]
  cases value with
  | nan => exact .inr (.inl upper)
  | infinite negative =>
    cases negative with
    | false => exact .inr (.inl upper)
    | true =>
      left
      rw [clamp, show PyFloat.pyMin (.finite maxSp) (.infinite true) = .infinite true from rfl,
        show PyFloat.pyMax (.finite minSp) (.infinite true) = .finite minSp from rfl, least]
  | finite watts =>
    rw [clamp, PyFloat.pyMin_finite, PyFloat.pyMax_finite, least, most]
    rcases le_total watts 0 with negative | nonneg
    · left
      rw [max_eq_left ((min_le_right _ _).trans negative)]
    · right
      rcases le_total 100 watts with large | small
      · left
        rw [min_eq_left large, max_eq_right (by norm_num)]
      · right
        refine ⟨watts, rfl, ?_, nonneg, small⟩
        rw [min_eq_right small, max_eq_right nonneg]

/-- The bounds are in the range. -/
theorem inRange_bounds : InRange (.finite 0) ∧ InRange (.finite 100) := by
  constructor
  · exact ⟨0, by norm_num, le_rfl, by norm_num⟩
  · exact ⟨1000, by norm_num, by norm_num, le_rfl⟩

/-- Rounding after the clamp, as the manual override does. -/
theorem inRange_clamp_round1 (value : PyFloat) : InRange (clamp value).round1 := by
  rcases clamp_cases value with zero | hundred | ⟨watts, -, kept, nonneg, most⟩
  · rw [zero]
    exact inRange_round1 le_rfl (by norm_num)
  · rw [hundred]
    exact inRange_round1 (by norm_num) le_rfl
  · rw [kept]
    exact inRange_round1 nonneg most

/-- Rounding before the clamp, as an update does. -/
theorem inRange_round1_clamp (value : PyFloat) : InRange (clamp value.round1) := by
  rcases clamp_cases value.round1 with zero | hundred | ⟨watts, rounded, kept, nonneg, most⟩
  · rw [zero]
    exact inRange_bounds.1
  · rw [hundred]
    exact inRange_bounds.2
  · rw [kept]
    cases value with
    | nan => cases rounded
    | infinite negative => cases rounded
    | finite exactly =>
      obtain ⟨tenths, tenth, -⟩ := PyFloat.round1_near exactly
      rw [tenth] at rounded
      rw [← PyFloat.finite.inj rounded] at nonneg most ⊢
      refine ⟨tenths, rfl, ?_, ?_⟩
      · have positive : (0 : ℚ) ≤ tenths := by linarith
        exact_mod_cast positive
      · have bounded : (tenths : ℚ) ≤ 1000 := by linarith
        exact_mod_cast bounded

/-- What an update infers is in the range. -/
theorem inRange_nodeSetpoint {error : PyFloat} {demand : PyNumber} {reading : Reading} {sp : PyFloat}
    (inferred : nodeSetpoint error demand reading = .ok sp) : InRange sp := by
  obtain ⟨trust, -, inferred⟩ := bind_ok inferred
  obtain ⟨output, -, inferred⟩ := bind_ok inferred
  rw [← Except.ok.inj inferred]
  exact inRange_round1_clamp output

/-- All that is ever written is in the range. -/
theorem inRange_writes (operation : SetpointOperation) :
    ∀ write ∈ operation.writes, InRange write.2.1 := by
  cases operation with
  | manual nodeLabel pDemand now =>
    intro write member
    rw [List.mem_singleton.mp member]
    exact inRange_clamp_round1 pDemand
  | update store now =>
    rw [SetpointOperation.writes]
    cases vBusError store.latest with
    | error exception => exact fun _ member => (List.not_mem_nil member).elim
    | ok error =>
      cases pDemand store.latest with
      | error exception => exact fun _ member => (List.not_mem_nil member).elim
      | ok demand =>
        dsimp only
        induction store.latest.entries with
        | nil => exact fun _ member => (List.not_mem_nil member).elim
        | cons entry rest inductionHypothesis =>
          obtain ⟨node, reading⟩ := entry
          rw [inferredWrites]
          cases inferred : nodeSetpoint error demand reading with
          | error exception => exact fun _ member => (List.not_mem_nil member).elim
          | ok sp =>
            intro write member
            rcases List.mem_cons.mp member with rfl | later
            · exact inRange_nodeSetpoint inferred
            · exact inductionHypothesis write later

/-! ### The board -/

/-- After these operations the coordinator answers about a label from the writes to it. -/
structure AnswersFromWrites (operations : List SetpointOperation) (nodeLabel : String) : Prop where
  setpoint : (operated operations).getSetpoint nodeLabel =
    (writesTo nodeLabel operations).getLast?.map Prod.fst
  listed : ∀ sp, (nodeLabel, sp) ∈ (operated operations).getAllSetpoints.entries ↔
    (operated operations).getSetpoint nodeLabel = some sp
  time : (operated operations).lastUpdate.get? nodeLabel =
    (writesTo nodeLabel operations).getLast?.map Prod.snd
  range : ∀ sp, (operated operations).getSetpoint nodeLabel = some sp → InRange sp

/-- What is asked about a label is the last write to it, for any operations in any order. -/
theorem answers_from_writes (operations : List SetpointOperation) (nodeLabel : String) :
    AnswersFromWrites operations nodeLabel := by
  have holds := lastWrites_operated operations
  have setpoints := holds.setpoints nodeLabel
  have times := holds.lastUpdate nodeLabel
  rw [← writesTo] at setpoints times
  have answer : (operated operations).getSetpoint nodeLabel =
      (writesTo nodeLabel operations).getLast?.map Prod.fst := by
    rw [EMSCoordinator.getSetpoint, times, setpoints]
    cases (writesTo nodeLabel operations).getLast? <;> rfl
  refine ⟨answer, fun sp => ?_, times, fun sp found => ?_⟩
  · rw [answer, ← setpoints]
    exact Dict.mem_entries_iff _ nodeLabel sp
  · rw [answer] at found
    obtain ⟨write, last, rfl⟩ := Option.map_eq_some_iff.mp found
    have written : write ∈ writesTo nodeLabel operations := List.mem_of_getLast? last
    rw [writesTo, entriesOf, List.mem_filterMap] at written
    obtain ⟨entry, logged, isWrite⟩ := written
    obtain ⟨operation, -, member⟩ := List.mem_flatMap.mp logged
    have value : entry.2 = write := by
      split at isWrite
      · exact Option.some.inj isWrite
      · cases isWrite
    rw [← value]
    exact inRange_writes operation entry member

end Microgrid.Ems
