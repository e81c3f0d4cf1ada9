import Microgrid.Ems.DataStore
import Microgrid.Ems.FuzzyInference

/-!
# The update of the setpoints

`EMSCoordinator.update` averages the bus voltages and adds up the bus powers of all
latest readings, then infers one setpoint after the other from the trust score that the
reading of the node carries. What a reading holds is whatever its node sent, so every
operation on it may raise; the setpoints stored before that stay.
-/

namespace Microgrid.Ems

open PythonValues

/-- `EMSCoordinator`. -/
structure EMSCoordinator where
  setpoints : Dict PyFloat
  lastUpdate : Dict ℚ

/-- `v_bus_values`. -/
def vBusValues (allLatest : Dict Reading) : List PyValue :=
  allLatest.entries.map fun (_, reading) =>
    (reading.lookup "V_bus").getD (.float (.finite vNominal))

/-- The `P_bus` values. -/
def pBusValues (allLatest : Dict Reading) : List PyValue :=
  allLatest.entries.map fun (_, reading) => (reading.lookup "P_bus").getD (.float (.finite 0))

/-- `mean_v_bus`. -/
def meanVBus (allLatest : Dict Reading) : Except PyException PyFloat := do
  let values := vBusValues allLatest
  (← pySum values).divNat values.length

/-- `v_bus_error`. -/
def vBusError (allLatest : Dict Reading) : Except PyException PyFloat := do
  let mean ← meanVBus allLatest
  pure (mean.sub (.finite vNominal)).rounded

/-- `p_demand`. -/
def pDemand (allLatest : Dict Reading) : Except PyException PyNumber := pySum (pBusValues allLatest)

/-- The trust score `update` uses for a node. -/
def trustUsed (reading : Reading) : PyValue :=
  (reading.lookup "trust_score").getD (.float (.finite 1))

/-- `sp`. Comparisons are exact on integers, and an integer that enters the arithmetic of
a membership function lies between its feet, so a number is passed on by its value. -/
def nodeSetpoint (vBusError : PyFloat) (pDemand : PyNumber) (reading : Reading) :
    Except PyException PyFloat := do
  let trust ← (trustUsed reading).operand
  let sp ← fuzzyInfer vBusError pDemand.exact trust.exact
  pure (PyFloat.pyMax (.finite minSp) (PyFloat.pyMin (.finite maxSp) sp.round1))

/-- The latest reading of a node carries the trust score `t`. -/
def TrustScore (reading : Reading) (t : ℚ) : Prop :=
  ∃ value trust, reading.lookup "trust_score" = some value ∧ value.number? = some trust ∧
    trust.exact = .finite t

/-- A trust score that a reading carries is the one the update works with. -/
theorem TrustScore.operand {reading : Reading} {t : ℚ} (carried : TrustScore reading t) :
    ∃ trust, (trustUsed reading).operand = .ok trust ∧ trust.exact = .finite t := by
  obtain ⟨value, trust, found, number, score⟩ := carried
  refine ⟨trust, ?_, score⟩
  rw [trustUsed, found, Option.getD_some, PyValue.operand, number]

/-- A reading carries one trust score. -/
theorem TrustScore.unique {reading : Reading} {first second : ℚ} (one : TrustScore reading first)
    (other : TrustScore reading second) : first = second := by
  obtain ⟨value, number, found, read, score⟩ := one
  obtain ⟨value', number', found', read', score'⟩ := other
  rw [found] at found'
  rw [← Option.some.inj found', read] at read'
  rw [← Option.some.inj read', score] at score'
  exact PyFloat.finite.inj score'

/-- The recorded reading carries the trust score that was embedded in it. -/
theorem TrustScore.recorded {reading : Reading} {t : ℚ} (carried : TrustScore reading t) (now : ℚ) :
    TrustScore (Fields.setdefault reading "server_ts" (.float (.finite now))) t := by
  obtain ⟨value, number, found, read, score⟩ := carried
  refine ⟨value, number, ?_, read, score⟩
  rw [DataStore.lookup_recorded _ _ (by decide), found]

/-- Unless a bus input is NaN a setpoint is inferred, and it lies between 0 W and 100 W. -/
theorem nodeSetpoint_returns {error : PyFloat} {demand : PyNumber} (voltage : error ≠ .nan)
    (power : demand.exact ≠ .nan) {reading : Reading} {t : ℚ} (carried : TrustScore reading t) :
    ∃ sp : ℚ, nodeSetpoint error demand reading = .ok (.finite sp) ∧ 0 ≤ sp ∧ sp ≤ 100 := by
  obtain ⟨trust, operand, score⟩ := carried.operand
  obtain ⟨output, inferred⟩ := fuzzyInfer_returns voltage power t
  obtain ⟨tenths, rounded, -⟩ := PyFloat.round1_near output
  refine ⟨max minSp (min maxSp (tenths / 10)), ?_, le_max_left _ _, ?_⟩
  · rw [nodeSetpoint, operand]
    simp only [bind, Except.bind]
    rw [score, inferred]
    simp only [rounded, PyFloat.pyMin_finite, PyFloat.pyMax_finite]
    rfl
  · exact max_le (by norm_num [minSp]) (min_le_left _ _)

namespace EMSCoordinator

/-- `EMSCoordinator(config)`. -/
def init : EMSCoordinator := ⟨.empty, .empty⟩

/-- The loop of `update`. -/
def updateNodes (vBusError : PyFloat) (pDemand : PyNumber) (now : ℚ) :
    Fields Reading → EMSCoordinator → EMSCoordinator × Except PyException Unit
  | [], ems => (ems, .ok ())
  | (node, reading) :: rest, ems =>
    match nodeSetpoint vBusError pDemand reading with
    | .error exception => (ems, .error exception)
    | .ok sp => updateNodes vBusError pDemand now rest
        ⟨ems.setpoints.set node sp, ems.lastUpdate.set node now⟩

/-- `update`, with the coordinator as it leaves it when it raises. -/
def update (ems : EMSCoordinator) (store : DataStore) (now : ℚ) :
    EMSCoordinator × Except PyException Unit :=
  let allLatest := store.getAllLatest
  if allLatest.entries.isEmpty then (ems, .ok ())
  else
    match vBusError allLatest, pDemand allLatest with
    | .ok error, .ok demand => updateNodes error demand now allLatest.entries ems
    | .error exception, _ => (ems, .error exception)
    | .ok _, .error exception => (ems, .error exception)

/-- `get_setpoint`. -/
def getSetpoint (ems : EMSCoordinator) (nodeLabel : String) : Option PyFloat :=
  if (ems.lastUpdate.get? nodeLabel).isSome
  then some ((ems.setpoints.get? nodeLabel).getD (.finite defaultSp)) else none

/-- The loop leaves the setpoints of other nodes alone. -/
theorem updateNodes_other {error : PyFloat} {demand : PyNumber} {now : ℚ} {label : String}
    (nodes : Fields Reading) (absent : label ∉ nodes.map Prod.fst) (ems : EMSCoordinator) :
    (updateNodes error demand now nodes ems).1.setpoints.get? label = ems.setpoints.get? label := by
  induction nodes generalizing ems with
  | nil => rfl
  | cons head rest inductionHypothesis =>
    obtain ⟨node, reading⟩ := head
    rw [List.map_cons, List.mem_cons, not_or] at absent
    rw [updateNodes]
    split
    · rfl
    · rw [inductionHypothesis absent.2, Dict.get?_set_ne _ absent.1]

/-- A loop that ends without an exception has stored the inferred setpoint of every node. -/
theorem updateNodes_stored {error : PyFloat} {demand : PyNumber} {now : ℚ} {label : String}
    {reading : Reading} (nodes : Fields Reading) (distinct : (nodes.map Prod.fst).Nodup)
    (member : (label, reading) ∈ nodes) (ems : EMSCoordinator)
    (returned : (updateNodes error demand now nodes ems).2 = .ok ()) :
    ∃ sp, nodeSetpoint error demand reading = .ok sp ∧
      (updateNodes error demand now nodes ems).1.setpoints.get? label = some sp := by
  induction nodes generalizing ems with
  | nil => cases member
  | cons head rest inductionHypothesis =>
    obtain ⟨node, latest⟩ := head
    obtain ⟨fresh, restDistinct⟩ := List.nodup_cons.mp distinct
    rw [updateNodes] at returned ⊢
    cases inferred : nodeSetpoint error demand latest with
    | error exception => simp [inferred] at returned
    | ok sp =>
      simp only [inferred] at returned ⊢
      rcases List.mem_cons.mp member with same | later
      · obtain ⟨rfl, rfl⟩ := Prod.mk.inj same
        refine ⟨sp, inferred, ?_⟩
        rw [updateNodes_other rest fresh, Dict.get?_set_self]
      · exact inductionHypothesis restDistinct later _ returned

/-- An update that raises nothing has stored the inferred setpoint of every node in the
store. -/
theorem update_stored (ems : EMSCoordinator) (store : DataStore) (now : ℚ) {label : String}
    {reading : Reading} (recorded : store.latest.get? label = some reading)
    {error : PyFloat} {demand : PyNumber} (mean : vBusError store.latest = .ok error)
    (total : pDemand store.latest = .ok demand) (returned : (ems.update store now).2 = .ok ()) :
    ∃ sp, nodeSetpoint error demand reading = .ok sp ∧
      (ems.update store now).1.setpoints.get? label = some sp := by
  have member := (Dict.mem_entries_iff store.latest label reading).mpr recorded
  have busy : store.latest.entries.isEmpty = false := by
    rw [List.isEmpty_eq_false_iff]
    exact List.ne_nil_of_mem member
  have loop : ems.update store now = updateNodes error demand now store.latest.entries ems := by
    simp only [update, DataStore.getAllLatest, busy, mean, total, Bool.false_eq_true, if_false]
  rw [loop] at returned ⊢
  exact updateNodes_stored _ store.latest.distinct member ems returned

/-- The loop ends without an exception if every setpoint can be inferred. -/
theorem updateNodes_returns {error : PyFloat} {demand : PyNumber} {now : ℚ} (nodes : Fields Reading)
    (inferred : ∀ entry ∈ nodes, ∃ sp, nodeSetpoint error demand entry.2 = .ok sp)
    (ems : EMSCoordinator) : (updateNodes error demand now nodes ems).2 = .ok () := by
  induction nodes generalizing ems with
  | nil => rfl
  | cons head rest inductionHypothesis =>
    obtain ⟨sp, stored⟩ := inferred head List.mem_cons_self
    rw [updateNodes, stored]
    exact inductionHypothesis (fun entry member => inferred entry (List.mem_cons_of_mem _ member)) _

/-- An update ends without an exception if the mean and the total can be computed, neither
is NaN, and every reading carries a trust score. -/
theorem update_returns (ems : EMSCoordinator) (store : DataStore) (now : ℚ)
    {error : PyFloat} {demand : PyNumber} (mean : vBusError store.latest = .ok error)
    (total : pDemand store.latest = .ok demand) (voltage : error ≠ .nan)
    (power : demand.exact ≠ .nan)
    (carried : ∀ entry ∈ store.latest.entries, ∃ t, TrustScore entry.2 t) :
    (ems.update store now).2 = .ok () := by
  simp only [update, DataStore.getAllLatest, mean, total]
  split
  · rfl
  · refine updateNodes_returns _ (fun entry member => ?_) ems
    obtain ⟨t, score⟩ := carried entry member
    obtain ⟨sp, inferred, -⟩ := nodeSetpoint_returns voltage power score
    exact ⟨_, inferred⟩

end EMSCoordinator

end Microgrid.Ems
