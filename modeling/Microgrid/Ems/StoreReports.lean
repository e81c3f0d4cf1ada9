import Microgrid.Ems.EmsCoordinator
import Microgrid.Ems.NodeLogs
import Microgrid.Foundation.PythonSums

/-!
# What the store reports as a whole

The queries over all labels: the labels themselves, the totals of the latest powers, the
summary and the export. Labels come in the order of their first recordings, and each query
answers from the log of all recordings.

The totals are added up as floating-point numbers, from zero and in the order of the labels,
and each addition rounds. One power that is no number, or an integer that does not fit a `float`,
makes the query raise.
-/

namespace Microgrid.Ems

open PythonValues KeyedLogs

/-- What `aggregate_power` returns. -/
structure AggregatedPower where
  totalPBus : PyFloat
  totalPGen : PyFloat
  nodeCount : ℕ
  ts : ℚ

namespace DataStore

/-- `get_all_nodes`. -/
def getAllNodes (store : DataStore) : List String := store.buffers.entries.map Prod.fst

/-- A power of a reading. -/
def powerOf (field : String) (reading : Reading) : PyValue :=
  (reading.lookup field).getD (.float (.finite 0))

/-- One round of the loop of `aggregate_power`. -/
def addPowers (totals : PyFloat × PyFloat × ℕ) (reading : Reading) :
    Except PyException (PyFloat × PyFloat × ℕ) := do
  let totalPBus ← totals.1.addValue (powerOf "P_bus" reading)
  let totalPGen ← totals.2.1.addValue (powerOf "P_gen" reading)
  pure (totalPBus, totalPGen, totals.2.2 + 1)

/-- `aggregate_power`, at the server's time `now`. -/
def aggregatePower (store : DataStore) (now : ℚ) : Except PyException AggregatedPower := do
  let totals ← (store.latest.entries.map Prod.snd).foldlM addPowers (.finite 0, .finite 0, 0)
  pure ⟨totals.1.round2, totals.2.1.round2, totals.2.2, now⟩

/-- `summary`: the count and `latest_ts` of every node. -/
def summary (store : DataStore) : Fields (ℕ × PyValue) :=
  store.getAllNodes.map fun node =>
    (node, (store.recordCounts.get? node).getD 0, match store.latest.get? node with
      | some reading => (reading.lookup "ts_ms").getD .none
      | none => .none)

/-- What `export_json` writes. An empty label is no label. -/
def exportJson (store : DataStore) (nodeLabel : String) : Fields (List Reading) :=
  if nodeLabel ≠ "" then [(nodeLabel, (store.buffers.get? nodeLabel).getD [])]
  else store.buffers.entries

end DataStore

/-! ### Labels -/

/-- The three dictionaries have the same labels, in the same order. -/
structure Aligned (store : DataStore) : Prop where
  latest : store.latest.entries.map Prod.fst = store.getAllNodes
  recordCounts : store.recordCounts.entries.map Prod.fst = store.getAllNodes

/-- An empty store is aligned. -/
theorem aligned_init (maxReadings : ℕ) : Aligned (.init maxReadings) := ⟨rfl, rfl⟩

/-- A recording adds its label behind the others unless it is there already. -/
theorem getAllNodes_record (store : DataStore) (nodeLabel : String) (reading : Reading) (now : ℚ) :
    (store.record nodeLabel reading now).getAllNodes =
      if nodeLabel ∈ store.getAllNodes then store.getAllNodes
      else store.getAllNodes ++ [nodeLabel] :=
  Fields.keys_set store.buffers.entries nodeLabel _

/-- A recording keeps the dictionaries aligned. -/
theorem Aligned.record {store : DataStore} (aligned : Aligned store) (nodeLabel : String)
    (reading : Reading) (now : ℚ) : Aligned (store.record nodeLabel reading now) := by
  have latest : (store.record nodeLabel reading now).latest.entries.map Prod.fst = _ :=
    Fields.keys_set store.latest.entries nodeLabel _
  have counts : (store.record nodeLabel reading now).recordCounts.entries.map Prod.fst = _ :=
    Fields.keys_set store.recordCounts.entries nodeLabel _
  constructor
  · rw [getAllNodes_record, latest, aligned.latest]
  · rw [getAllNodes_record, counts, aligned.recordCounts]

/-- The labels of some calls, in the order of their first occurrences. -/
def labelsOf (calls : List RecordCall) : List String :=
  calls.foldl (fun labels call =>
    if call.nodeLabel ∈ labels then labels else labels ++ [call.nodeLabel]) []

/-- After any calls the store is aligned and has the labels of the calls. -/
theorem labels_recorded (maxReadings : ℕ) (calls : List RecordCall) :
    Aligned (recorded maxReadings calls) ∧
      (recorded maxReadings calls).getAllNodes = labelsOf calls := by
  induction calls using List.reverseRecOn with
  | nil => exact ⟨aligned_init maxReadings, rfl⟩
  | append_singleton calls call inductionHypothesis =>
    obtain ⟨aligned, labels⟩ := inductionHypothesis
    rw [recorded, List.foldl_append, ← recorded, labelsOf, List.foldl_append, ← labelsOf]
    refine ⟨aligned.record _ _ _, ?_⟩
    rw [List.foldl_cons, List.foldl_nil, List.foldl_cons, List.foldl_nil, getAllNodes_record, labels]

/-- The labels of some calls are distinct, and each comes from a call. -/
theorem mem_labelsOf (calls : List RecordCall) : (labelsOf calls).Nodup ∧
    ∀ nodeLabel, nodeLabel ∈ labelsOf calls ↔ nodeLabel ∈ calls.map RecordCall.nodeLabel := by
  induction calls using List.reverseRecOn with
  | nil => exact ⟨List.nodup_nil, fun _ => Iff.rfl⟩
  | append_singleton calls call inductionHypothesis =>
    obtain ⟨distinct, members⟩ := inductionHypothesis
    rw [labelsOf, List.foldl_append, ← labelsOf, List.foldl_cons, List.foldl_nil]
    by_cases known : call.nodeLabel ∈ labelsOf calls
    · rw [if_pos known]
      refine ⟨distinct, fun nodeLabel => ?_⟩
      rw [members, List.map_append, List.mem_append]
      constructor
      · exact .inl
      · rintro (earlier | last)
        · exact earlier
        · rw [List.mem_singleton.mp last]
          exact (members _).mp known
    · rw [if_neg known]
      refine ⟨List.nodup_append.mpr ⟨distinct, List.nodup_singleton _, ?_⟩, fun nodeLabel => ?_⟩
      · intro label listed other last same
        rw [same, List.mem_singleton.mp last] at listed
        exact known listed
      · rw [List.mem_append, members, List.map_append, List.mem_append]
        rfl

/-- The entries of a dictionary are its labels, each with what it looks up. -/
theorem entries_eq {α : Type} (dict : Dict α) (default : α) :
    dict.entries = (dict.entries.map Prod.fst).map fun key =>
      (key, (dict.get? key).getD default) := by
  rw [List.map_map]
  symm
  calc dict.entries.map ((fun key => (key, (dict.get? key).getD default)) ∘ Prod.fst)
      = dict.entries.map id := by
        refine List.map_congr_left fun entry member => ?_
        have found : dict.get? entry.1 = some entry.2 := (dict.mem_entries_iff _ _).mp member
        simp only [Function.comp_apply, found, Option.getD_some, id_eq]
    _ = dict.entries := List.map_id _

/-! ### Totals -/

/-- Both powers of a reading are numbers that a `float` can hold. -/
def Totalled (reading : Reading) : Prop :=
  (DataStore.powerOf "P_bus" reading).Convertible ∧ (DataStore.powerOf "P_gen" reading).Convertible

/-- What values come to that are added to a `float` one after the other. -/
def floatTotal (total : PyFloat) (values : List PyValue) : Except PyException PyFloat :=
  values.foldlM PyFloat.addValue total

/-- The two totals do not depend on each other.

Induct over the readings; of an exception only one of them is the source. -/
theorem addPowers_iff (readings : List Reading) (totals after : PyFloat × PyFloat × ℕ) :
    readings.foldlM DataStore.addPowers totals = .ok after ↔
      floatTotal totals.1 (readings.map (DataStore.powerOf "P_bus")) = .ok after.1 ∧
        floatTotal totals.2.1 (readings.map (DataStore.powerOf "P_gen")) = .ok after.2.1 ∧
        after.2.2 = totals.2.2 + readings.length := by
  induction readings generalizing totals with
  | nil =>
    obtain ⟨bus, generated, count⟩ := totals
    obtain ⟨busAfter, generatedAfter, countAfter⟩ := after
    constructor
    · intro same
      obtain ⟨rfl, rest⟩ := Prod.mk.inj (Except.ok.inj same)
      obtain ⟨rfl, rfl⟩ := Prod.mk.inj rest
      exact ⟨rfl, rfl, rfl⟩
    · rintro ⟨sameBus, sameGenerated, sameCount⟩
      obtain rfl : bus = busAfter := Except.ok.inj sameBus
      obtain rfl : generated = generatedAfter := Except.ok.inj sameGenerated
      obtain rfl : countAfter = count := sameCount
      rfl
  | cons reading rest inductionHypothesis =>
    simp only [floatTotal, List.map_cons, List.foldlM_cons, List.length_cons]
    constructor
    · intro returned
      obtain ⟨next, added, returned⟩ := bind_ok returned
      obtain ⟨bus, busAdded, added⟩ := bind_ok added
      obtain ⟨generated, genAdded, added⟩ := bind_ok added
      obtain ⟨busTotal, genTotal, count⟩ := (inductionHypothesis next).mp returned
      rw [← Except.ok.inj added] at busTotal genTotal count
      rw [busAdded, genAdded]
      exact ⟨busTotal, genTotal, count.trans (Nat.add_right_comm _ _ _)⟩
    · rintro ⟨busReturned, genReturned, count⟩
      obtain ⟨bus, busAdded, busTotal⟩ := bind_ok busReturned
      obtain ⟨generated, genAdded, genTotal⟩ := bind_ok genReturned
      have added : DataStore.addPowers totals reading = .ok (bus, generated, totals.2.2 + 1) := by
        rw [DataStore.addPowers, busAdded]
        simp only [bind, Except.bind, genAdded]
        rfl
      rw [added]
      exact (inductionHypothesis _).mpr
        ⟨busTotal, genTotal, count.trans (Nat.add_right_comm _ 1 _).symm⟩

/-- A total can be computed exactly if all values are numbers that a `float` can hold. -/
theorem floatTotal_ok_iff (total : PyFloat) (values : List PyValue) :
    (∃ sum, floatTotal total values = .ok sum) ↔ ∀ value ∈ values, value.Convertible := by
  induction values generalizing total with
  | nil => exact ⟨fun _ _ member => (List.not_mem_nil member).elim, fun _ => ⟨total, rfl⟩⟩
  | cons value rest inductionHypothesis =>
    rw [floatTotal, List.foldlM_cons, List.forall_mem_cons]
    constructor
    · rintro ⟨sum, returned⟩
      obtain ⟨next, added, returned⟩ := bind_ok returned
      exact ⟨(PyFloat.addValue_ok_iff _ _).mp ⟨_, added⟩, (inductionHypothesis next).mp ⟨sum, returned⟩⟩
    · rintro ⟨convertible, later⟩
      obtain ⟨next, added⟩ := (PyFloat.addValue_ok_iff total value).mpr convertible
      obtain ⟨sum, returned⟩ := (inductionHypothesis next).mpr later
      exact ⟨sum, by rw [added]; exact returned⟩

/-- What `aggregate_power` returns, and when it returns. -/
theorem aggregatePower_iff (store : DataStore) (now : ℚ) (power : AggregatedPower) :
    store.aggregatePower now = .ok power ↔ ∃ bus generated,
      floatTotal (.finite 0) (store.latest.entries.map fun entry =>
        DataStore.powerOf "P_bus" entry.2) = .ok bus ∧
      floatTotal (.finite 0) (store.latest.entries.map fun entry =>
        DataStore.powerOf "P_gen" entry.2) = .ok generated ∧
      power = ⟨bus.round2, generated.round2, store.latest.entries.length, now⟩ := by
  have loop (after : PyFloat × PyFloat × ℕ) :=
    addPowers_iff (store.latest.entries.map Prod.snd) (.finite 0, .finite 0, 0) after
  simp only [List.map_map, Function.comp_def, List.length_map, Nat.zero_add] at loop
  constructor
  · intro aggregated
    obtain ⟨after, returned, aggregated⟩ := bind_ok aggregated
    obtain ⟨bus, generated, count⟩ := (loop after).mp returned
    refine ⟨after.1, after.2.1, bus, generated, ?_⟩
    rw [← Except.ok.inj aggregated, count]
  · rintro ⟨bus, generated, busTotal, genTotal, rfl⟩
    have returned := (loop (bus, generated, store.latest.entries.length)).mpr
      ⟨busTotal, genTotal, rfl⟩
    rw [DataStore.aggregatePower, returned]
    rfl

/-- The totals can be computed exactly if all powers of the latest readings can be added. -/
theorem aggregatePower_ok_iff (store : DataStore) (now : ℚ) :
    (∃ power, store.aggregatePower now = .ok power) ↔
      ∀ nodeLabel reading, store.getLatest nodeLabel = some reading → Totalled reading := by
  have members (field : String) : (∀ value ∈ store.latest.entries.map fun entry =>
        DataStore.powerOf field entry.2, value.Convertible) ↔
      ∀ nodeLabel reading, store.getLatest nodeLabel = some reading →
        (DataStore.powerOf field reading).Convertible := by
    rw [List.forall_mem_map]
    constructor
    · intro all nodeLabel reading latest
      exact all (nodeLabel, reading) ((Dict.mem_entries_iff _ _ _).mpr latest)
    · intro all entry listed
      exact all entry.1 entry.2 ((Dict.mem_entries_iff _ _ _).mp listed)
  have bus := (floatTotal_ok_iff (.finite 0) _).trans (members "P_bus")
  have generated := (floatTotal_ok_iff (.finite 0) _).trans (members "P_gen")
  constructor
  · rintro ⟨power, returned⟩
    obtain ⟨busTotal, genTotal, busReturned, genReturned, -⟩ :=
      (aggregatePower_iff store now power).mp returned
    exact fun nodeLabel reading latest => ⟨bus.mp ⟨_, busReturned⟩ nodeLabel reading latest,
      generated.mp ⟨_, genReturned⟩ nodeLabel reading latest⟩
  · intro all
    obtain ⟨busTotal, busReturned⟩ := bus.mpr fun nodeLabel reading latest =>
      (all nodeLabel reading latest).1
    obtain ⟨genTotal, genReturned⟩ := generated.mpr fun nodeLabel reading latest =>
      (all nodeLabel reading latest).2
    exact ⟨_, (aggregatePower_iff store now _).mpr ⟨_, _, busReturned, genReturned, rfl⟩⟩

/-! ### Reports -/

/-- The last reading of every label, in the order of the labels. -/
def lastReadings (calls : List RecordCall) : List Reading :=
  (labelsOf calls).map fun node => (readingsOf node calls).getLast?.getD []

/-- After these calls the queries over all labels answer from the log. -/
structure ReportsFromLog (maxReadings : ℕ) (calls : List RecordCall) : Prop where
  nodes : (recorded maxReadings calls).getAllNodes = labelsOf calls
  summary : (recorded maxReadings calls).summary = (labelsOf calls).map fun node =>
    (node, (readingsOf node calls).length,
      ((readingsOf node calls).getLast?.bind (·.lookup "ts_ms")).getD .none)
  exported : (recorded maxReadings calls).exportJson "" = (labelsOf calls).map fun node =>
    (node, (readingsOf node calls).rtake maxReadings)
  exportedLabel : ∀ node, node ≠ "" → (recorded maxReadings calls).exportJson node =
    [(node, (readingsOf node calls).rtake maxReadings)]
  totals : ∀ now power, (recorded maxReadings calls).aggregatePower now = .ok power ↔
    ∃ bus generated,
      floatTotal (.finite 0) ((lastReadings calls).map (DataStore.powerOf "P_bus")) = .ok bus ∧
      floatTotal (.finite 0) ((lastReadings calls).map (DataStore.powerOf "P_gen")) = .ok generated ∧
      power = ⟨bus.round2, generated.round2, (labelsOf calls).length, now⟩
  returns : ∀ now, (∃ power, (recorded maxReadings calls).aggregatePower now = .ok power) ↔
    ∀ node ∈ labelsOf calls, ∀ reading, (readingsOf node calls).getLast? = some reading →
      Totalled reading

/-- What the buffer of a label is. -/
theorem buffer_recorded (maxReadings : ℕ) (calls : List RecordCall) (node : String) :
    ((recorded maxReadings calls).buffers.get? node).getD [] =
      (readingsOf node calls).rtake maxReadings := by
  obtain ⟨represents, capacity⟩ := represents_recorded maxReadings calls
  rw [represents.buffers, capacity, ← readingsOf, kept]
  split
  · next empty =>
    rw [empty, List.rtake_nil]
    rfl
  · rfl

/-- Labels, counts, exports and totals are those of the log, for any calls. -/
theorem reports_from_log (maxReadings : ℕ) (calls : List RecordCall) :
    ReportsFromLog maxReadings calls := by
  obtain ⟨aligned, labels⟩ := labels_recorded maxReadings calls
  have latest (node : String) : (recorded maxReadings calls).latest.get? node =
      (readingsOf node calls).getLast? := getLatest_recorded maxReadings calls node
  have entries : (recorded maxReadings calls).latest.entries = (labelsOf calls).map fun node =>
      (node, (readingsOf node calls).getLast?.getD []) := by
    rw [entries_eq _ [], aligned.latest, labels]
    exact List.map_congr_left fun node _ => by rw [latest]
  have values (field : String) : ((recorded maxReadings calls).latest.entries.map fun entry =>
      DataStore.powerOf field entry.2) = (lastReadings calls).map (DataStore.powerOf field) := by
    rw [entries, lastReadings, List.map_map, List.map_map]
    rfl
  have size : (recorded maxReadings calls).latest.entries.length = (labelsOf calls).length := by
    rw [entries, List.length_map]
  refine ⟨labels, ?_, ?_, ?_, ?_, ?_⟩
  · rw [DataStore.summary, labels]
    refine List.map_congr_left fun node _ => ?_
    have count := getRecordCount_recorded maxReadings calls node
    rw [DataStore.getRecordCount] at count
    rw [count, latest]
    cases (readingsOf node calls).getLast? <;> rfl
  · rw [DataStore.exportJson, if_neg (not_not.mpr rfl), entries_eq _ [],
      ← DataStore.getAllNodes, labels]
    exact List.map_congr_left fun node _ => by rw [buffer_recorded]
  · intro node named
    rw [DataStore.exportJson, if_pos named, buffer_recorded]
  · intro now power
    rw [aggregatePower_iff, values, values, size]
  · intro now
    rw [aggregatePower_ok_iff]
    constructor
    · intro all node _ reading last
      exact all node reading ((getLatest_recorded maxReadings calls node).trans last)
    · intro all node reading recent
      have last := (getLatest_recorded maxReadings calls node).symm.trans recent
      have nonempty : readingsOf node calls ≠ [] := by
        intro empty
        rw [empty] at last
        cases last
      refine all node (((mem_labelsOf calls).2 node).mpr ?_) reading last
      exact (readingsOf_ne_nil_iff node calls).mp nonempty

end Microgrid.Ems
