import Microgrid.Ems.EmsCoordinator
import Microgrid.Foundation.PythonSums

/-!
# Stores on which the energy management runs

Three consumers read the store: the mean voltage, the total power and the cross-node
median. A missing field counts as a default in the first two and not at all in the third.
All three are safe as long as the values that the first two add up are ordinary, since
the median works on a part of the voltages.
-/

namespace Microgrid.Ems

open PythonValues

/-- The bus voltages and bus powers of the latest readings can be added up. -/
structure OrdinaryReadings (latest : Dict Reading) : Prop where
  voltages : Ordinary (vBusValues latest)
  powers : Ordinary (pBusValues latest)

/-- An update raises nothing and leaves a setpoint between 0 W and 100 W for every node of
the store, and no median raises. -/
structure KeepsRunning (floatOfStr : String → Except PyException PyFloat) (store : DataStore) :
    Prop where
  update_returns : ∀ (ems : EMSCoordinator) (now : ℚ), (ems.update store now).2 = .ok ()
  setpoints : ∀ (ems : EMSCoordinator) (now : ℚ) (label : String),
    (store.getLatest label).isSome → ∃ sp : ℚ,
      (ems.update store now).1.setpoints.get? label = some (.finite sp) ∧ 0 ≤ sp ∧ sp ≤ 100
  median_returns : ∀ excludeNode, ∃ median, store.getMedianVBus floatOfStr excludeNode = .ok median

/-- The mean voltage error of ordinary readings. -/
theorem OrdinaryReadings.vBusError {latest : Dict Reading} (ordinary : OrdinaryReadings latest)
    (inhabited : latest.entries ≠ []) : ∃ error, Ems.vBusError latest = .ok error ∧ error ≠ .nan := by
  obtain ⟨sum, summed, ended⟩ := ordinary.voltages.sum
  have positive : 0 < (vBusValues latest).length := by
    rw [vBusValues, List.length_map]
    exact List.length_pos_iff.mpr inhabited
  obtain ⟨mean, divided, numeric⟩ := ended.divNat positive
  refine ⟨(mean.sub (.finite vNominal)).rounded, ?_, (PyFloat.rounded_eq_nan _).not.mpr ?_⟩
  · rw [Ems.vBusError, meanVBus, summed]
    simp only [bind, Except.bind, divided]
    rfl
  · cases mean with
    | nan => exact absurd rfl numeric
    | finite value => rw [PyFloat.sub_finite]; nofun
    | infinite negative => exact nofun

/-- The total power of ordinary readings. -/
theorem OrdinaryReadings.pDemand {latest : Dict Reading} (ordinary : OrdinaryReadings latest) :
    ∃ demand, Ems.pDemand latest = .ok demand ∧ demand.exact ≠ .nan := by
  obtain ⟨sum, summed, ended⟩ := ordinary.powers.sum
  exact ⟨sum, summed, ended.exact_ne_nan⟩

/-- What enters a median is a part of what enters the mean. -/
theorem otherVBus_sublist (store : DataStore) (excludeNode : String) :
    (store.otherVBus excludeNode).Sublist (vBusValues store.latest) := by
  unfold DataStore.otherVBus vBusValues
  induction store.latest.entries with
  | nil => exact List.Sublist.refl _
  | cons head rest inductionHypothesis =>
    obtain ⟨node, reading⟩ := head
    rw [List.filterMap_cons, List.map_cons]
    by_cases excluded : node = excludeNode
    · simp only [excluded, if_true]
      exact inductionHypothesis.cons _
    · simp only [excluded, if_false]
      cases found : reading.lookup "V_bus" with
      | none => exact inductionHypothesis.cons _
      | some value =>
        cases value with
        | none => exact inductionHypothesis.cons _
        | _ => exact inductionHypothesis.cons_cons _

/-- Two neighbours in a list are a part of it. -/
theorem neighbours_sublist {α : Type} (values : List α) {index : ℕ}
    (inside : index + 1 < values.length) :
    [values[index], values[index + 1]].Sublist values := by
  have dropped : values.drop index = values[index] :: values[index + 1] :: values.drop (index + 2) := by
    rw [List.drop_eq_getElem_cons (by omega), List.drop_eq_getElem_cons inside]
  refine List.Sublist.trans ?_ (List.drop_sublist index values)
  rw [dropped]
  exact ((List.nil_sublist _).cons_cons _).cons_cons _

/-- The middle of two or more ordinary values. -/
theorem middle_ordinary (floatOfStr : String → Except PyException PyFloat) {values : List PyValue}
    (ordinary : Ordinary values) (several : 2 ≤ values.length) :
    ∃ median, DataStore.middle floatOfStr values = .ok median := by
  set numbers := values.filterMap PyValue.number? with named
  set sorted := DataStore.sortNumbers numbers with sortedNamed
  have reordered : sorted.Perm numbers := List.perm_insertionSort _ _
  have sameLength : numbers.length = values.length :=
    List.filterMap_length_eq_length.mpr fun value member => by
      obtain ⟨number, read⟩ := ordinary.numbers value member
      rw [read]
      rfl
  have many : 2 ≤ sorted.length := by
    rw [reordered.length_eq, sameLength]
    exact several
  have tame : Tame sorted := ordinary.tame.subperm reordered.subperm
  rw [DataStore.middle, mapM_number values ordinary.numbers]
  have upper : sorted.length / 2 < sorted.length := by omega
  by_cases even : sorted.length % 2 = 0
  · have lower : sorted.length / 2 - 1 + 1 < sorted.length := by omega
    have step : sorted.length / 2 - 1 + 1 = sorted.length / 2 := by omega
    have pair := tame.subperm (neighbours_sublist sorted lower).subperm
    obtain ⟨total, float, added, converted⟩ := pair.half
    obtain ⟨half, halved⟩ := float.div_returns (two_ne_zero : (2 : ℚ) ≠ 0)
    have first := item_ok sorted (Nat.lt_of_succ_lt lower)
    have second : item sorted (sorted.length / 2) = .ok sorted[sorted.length / 2 - 1 + 1] := by
      simp only [step]
      exact item_ok sorted upper
    refine ⟨half.rounded, ?_⟩
    simp only [← named, ← sortedNamed, even, if_true, first, second, bind, Except.bind, added,
      converted, halved]
    rfl
  · have alone := tame.subperm (List.singleton_sublist.mpr (List.getElem_mem upper)).subperm
    refine ⟨sorted[sorted.length / 2].converted, ?_⟩
    simp only [← named, ← sortedNamed, even, if_false, item_ok sorted upper, bind, Except.bind]
    refine PyNumber.toFloat_fits ?_
    have fits := alone.fits
    have nonneg := sorted[sorted.length / 2].magnitude_nonneg
    rw [List.map_singleton, List.sum_singleton] at fits
    linarith

/-- Ordinary readings of nodes that carry a trust score keep the energy management running. -/
theorem OrdinaryReadings.keepsRunning (floatOfStr : String → Except PyException PyFloat)
    {store : DataStore} (ordinary : OrdinaryReadings store.latest)
    (carried : ∀ entry ∈ store.latest.entries, ∃ t, TrustScore entry.2 t) :
    KeepsRunning floatOfStr store := by
  obtain ⟨demand, total, power⟩ := ordinary.pDemand
  constructor
  · intro ems now
    by_cases inhabited : store.latest.entries = []
    · rw [EMSCoordinator.update, DataStore.getAllLatest, inhabited]
      rfl
    · obtain ⟨error, mean, voltage⟩ := ordinary.vBusError inhabited
      exact ems.update_returns store now mean total voltage power carried
  · intro ems now label recorded
    obtain ⟨reading, found⟩ := Option.isSome_iff_exists.mp recorded
    have member := (Dict.mem_entries_iff store.latest label reading).mpr found
    obtain ⟨error, mean, voltage⟩ := ordinary.vBusError (List.ne_nil_of_mem member)
    obtain ⟨sp, inferred, stored⟩ := ems.update_stored store now found mean total
      (ems.update_returns store now mean total voltage power carried)
    obtain ⟨t, score⟩ := carried _ member
    obtain ⟨setpoint, same, atLeast, atMost⟩ := nodeSetpoint_returns voltage power score
    rw [inferred] at same
    refine ⟨setpoint, ?_, atLeast, atMost⟩
    rw [stored, Except.ok.inj same]
  · intro excludeNode
    rw [DataStore.getMedianVBus]
    split
    · exact ⟨none, rfl⟩
    · next several =>
      obtain ⟨median, computed⟩ := middle_ordinary floatOfStr
        (ordinary.voltages.sublist (otherVBus_sublist store excludeNode)) (not_lt.mp several)
      refine ⟨some median, ?_⟩
      rw [computed]
      rfl

/-- A voltage or a power that is not a number stops every update. -/
theorem update_raises {store : DataStore} {value : PyValue}
    (listed : value ∈ vBusValues store.latest ∨ value ∈ pBusValues store.latest)
    (other : value.number? = none) (ems : EMSCoordinator) (now : ℚ) :
    (ems.update store now).2 ≠ .ok () := by
  have inhabited : store.latest.entries.isEmpty = false := by
    rw [List.isEmpty_eq_false_iff]
    rintro empty
    rw [vBusValues, pBusValues, empty] at listed
    rcases listed with none | none <;> cases none
  have fails : (∃ exception, vBusError store.latest = .error exception) ∨
      ∃ exception, pDemand store.latest = .error exception := by
    rcases listed with voltage | power
    · obtain ⟨exception, stopped⟩ := foldlM_addValue_raises voltage other (.int 0)
      refine .inl ⟨exception, ?_⟩
      rw [vBusError, meanVBus, pySum, stopped]
      rfl
    · exact .inr (foldlM_addValue_raises power other (.int 0))
  intro returned
  simp only [EMSCoordinator.update, DataStore.getAllLatest, inhabited] at returned
  rcases fails with ⟨exception, stopped⟩ | ⟨exception, stopped⟩
  · rw [stopped] at returned
    cases returned
  · cases mean : vBusError store.latest with
    | error other => rw [mean] at returned; cases returned
    | ok error => rw [mean, stopped] at returned; cases returned

end Microgrid.Ems
