import Microgrid.Ems.DataStore
import Microgrid.Foundation.KeyedLogs

/-!
# The store as a log of readings

A ring buffer, the latest reading and a counter for each label, against the log of all
recordings. The buffer is a window of what the log has under the label, the other two are its
last entry and its length, and every query but one answers from the log. The exception is
`get_recent` for no readings at all: `items[-0:]` is the whole list, so it returns the whole
buffer.
-/

namespace Microgrid.Ems

open PythonValues KeyedLogs

/-- `items[start:]`. -/
def sliceFrom {α : Type} (items : List α) (start : ℤ) : List α :=
  items.drop (if start < 0 then (items.length + start).toNat else start.toNat)

namespace DataStore

/-- `get_recent`. -/
def getRecent (store : DataStore) (nodeLabel : String) (n : ℕ) : List Reading :=
  match store.buffers.get? nodeLabel with
  | none => []
  | some items => if items.length > n then sliceFrom items (-n) else items

/-- `get_record_count`. -/
def getRecordCount (store : DataStore) (nodeLabel : String) : ℕ :=
  (store.recordCounts.get? nodeLabel).getD 0

end DataStore

/-- A call of `record`, with the server's time. -/
structure RecordCall where
  nodeLabel : String
  reading : Reading
  now : ℚ

/-- The log entry of a call: the reading with the `server_ts` that `record` adds. -/
def RecordCall.entry (call : RecordCall) : String × Reading :=
  (call.nodeLabel, Fields.setdefault call.reading "server_ts" (.float (.finite call.now)))

/-- The store after some calls. -/
def recorded (maxReadings : ℕ) (calls : List RecordCall) : DataStore :=
  calls.foldl (fun store call => store.record call.nodeLabel call.reading call.now)
    (.init maxReadings)

/-- The readings that were recorded under a label. -/
def readingsOf (nodeLabel : String) (calls : List RecordCall) : List Reading :=
  entriesOf nodeLabel (calls.map RecordCall.entry)

/-- What is kept for a label with these entries, if there are any. -/
def kept {β : Type} (entries : List Reading) (value : β) : Option β :=
  if entries = [] then none else some value

/-- The store holds of each label a window of the log, its last entry and its length. -/
structure Represents (store : DataStore) (log : List (String × Reading)) : Prop where
  buffers : ∀ nodeLabel, store.buffers.get? nodeLabel =
    kept (entriesOf nodeLabel log) ((entriesOf nodeLabel log).rtake store.maxReadings)
  latest : ∀ nodeLabel, store.latest.get? nodeLabel = (entriesOf nodeLabel log).getLast?
  recordCounts : ∀ nodeLabel, store.recordCounts.get? nodeLabel =
    kept (entriesOf nodeLabel log) (entriesOf nodeLabel log).length

/-- Nothing has been recorded at first. -/
theorem represents_init (maxReadings : ℕ) : Represents (.init maxReadings) [] :=
  ⟨fun _ => rfl, fun _ => rfl, fun _ => rfl⟩

/-- A bounded append is an append to the window. -/
theorem appendBounded_eq (maxlen : ℕ) (buffer : List Reading) (reading : Reading) :
    DataStore.appendBounded maxlen buffer reading = (buffer ++ [reading]).rtake maxlen := by
  rw [DataStore.appendBounded, List.rtake, List.length_append, List.length_singleton]

/-- A recording appends its entry to the log. -/
theorem Represents.record {store : DataStore} {log : List (String × Reading)}
    (represents : Represents store log) (call : RecordCall) :
    Represents (store.record call.nodeLabel call.reading call.now) (log ++ [call.entry]) := by
  set reading := Fields.setdefault call.reading "server_ts" (.float (.finite call.now)) with stamped
  have entry : call.entry = (call.nodeLabel, reading) := rfl
  have buffer : ((store.buffers.get? call.nodeLabel).getD []) =
      (entriesOf call.nodeLabel log).rtake store.maxReadings := by
    rw [represents.buffers, kept]
    split
    · next empty =>
      rw [empty, List.rtake_nil]
      rfl
    · rfl
  have count : (if (store.buffers.get? call.nodeLabel).isSome
      then (store.recordCounts.get? call.nodeLabel).getD 0 else 0) =
      (entriesOf call.nodeLabel log).length := by
    rw [represents.buffers, represents.recordCounts, kept, kept]
    by_cases empty : entriesOf call.nodeLabel log = []
    · rw [if_pos empty, empty]
      rfl
    · rw [if_neg empty, if_neg empty]
      rfl
  have longer : entriesOf call.nodeLabel (log ++ [call.entry]) =
      entriesOf call.nodeLabel log ++ [reading] := by
    rw [entry, entriesOf_append_self]
  have nonempty : entriesOf call.nodeLabel log ++ [reading] ≠ [] := by simp
  constructor
  · intro nodeLabel
    by_cases same : nodeLabel = call.nodeLabel
    · rw [same, DataStore.record, Dict.get?_set_self, buffer, appendBounded_eq, ← stamped,
        rtake_append_rtake, longer, kept, if_neg nonempty]
    · rw [DataStore.record, Dict.get?_set_ne _ same, entry, entriesOf_append_ne same]
      exact represents.buffers nodeLabel
  · intro nodeLabel
    by_cases same : nodeLabel = call.nodeLabel
    · rw [same, DataStore.latest_record, Dict.get?_set_self, longer, List.getLast?_concat]
    · rw [DataStore.latest_record, Dict.get?_set_ne _ same, entry, entriesOf_append_ne same]
      exact represents.latest nodeLabel
  · intro nodeLabel
    by_cases same : nodeLabel = call.nodeLabel
    · rw [same, DataStore.record, Dict.get?_set_self, count, longer, kept, if_neg nonempty,
        List.length_append, List.length_singleton]
    · rw [DataStore.record, Dict.get?_set_ne _ same, entry, entriesOf_append_ne same]
      exact represents.recordCounts nodeLabel

/-- After any calls the store represents their log, under the capacity it was made with. -/
theorem represents_recorded (maxReadings : ℕ) (calls : List RecordCall) :
    Represents (recorded maxReadings calls) (calls.map RecordCall.entry) ∧
      (recorded maxReadings calls).maxReadings = maxReadings := by
  induction calls using List.reverseRecOn with
  | nil => exact ⟨represents_init maxReadings, rfl⟩
  | append_singleton calls call inductionHypothesis =>
    obtain ⟨represents, capacity⟩ := inductionHypothesis
    rw [recorded, List.foldl_append, ← recorded, List.map_append]
    exact ⟨represents.record call, capacity⟩

/-! ### Queries -/

/-- A window of part of the buffer, or of none of it. -/
theorem sliceFrom_neg (items : List Reading) {n : ℕ} (some : n ≠ 0) (part : n < items.length) :
    sliceFrom items (-n) = items.rtake n := by
  rw [sliceFrom, if_pos (by omega), List.rtake]
  congr 1
  omega

/-- The last readings of a label, as far as the buffer goes back. -/
theorem getRecent_recorded {maxReadings : ℕ} (calls : List RecordCall) (nodeLabel : String) {n : ℕ}
    (some : n ≠ 0) : (recorded maxReadings calls).getRecent nodeLabel n =
      (readingsOf nodeLabel calls).rtake (min n maxReadings) := by
  obtain ⟨represents, capacity⟩ := represents_recorded maxReadings calls
  rw [DataStore.getRecent, represents.buffers, capacity, ← readingsOf, kept]
  by_cases empty : readingsOf nodeLabel calls = []
  · rw [if_pos empty, empty, List.rtake_nil]
  · rw [if_neg empty]
    dsimp only
    rw [← rtake_rtake]
    split
    · next part => exact sliceFrom_neg _ some part
    · next whole => exact (rtake_of_length_le (Nat.le_of_not_lt whole)).symm

/-- Asked for no readings, the query returns the buffer. -/
theorem getRecent_zero {maxReadings : ℕ} (calls : List RecordCall) (nodeLabel : String) :
    (recorded maxReadings calls).getRecent nodeLabel 0 =
      (readingsOf nodeLabel calls).rtake maxReadings := by
  obtain ⟨represents, capacity⟩ := represents_recorded maxReadings calls
  rw [DataStore.getRecent, represents.buffers, capacity, ← readingsOf, kept]
  by_cases empty : readingsOf nodeLabel calls = []
  · rw [if_pos empty, empty, List.rtake_nil]
  · rw [if_neg empty]
    dsimp only
    split
    · rfl
    · rfl

/-- A label is in the log if a call was made for it. -/
theorem readingsOf_ne_nil_iff (nodeLabel : String) (calls : List RecordCall) :
    readingsOf nodeLabel calls ≠ [] ↔ nodeLabel ∈ calls.map RecordCall.nodeLabel := by
  rw [readingsOf, entriesOf_ne_nil_iff, List.map_map]
  rfl

/-- The counter of a label. -/
theorem getRecordCount_recorded (maxReadings : ℕ) (calls : List RecordCall) (nodeLabel : String) :
    (recorded maxReadings calls).getRecordCount nodeLabel =
      (readingsOf nodeLabel calls).length := by
  obtain ⟨represents, -⟩ := represents_recorded maxReadings calls
  rw [DataStore.getRecordCount, represents.recordCounts, ← readingsOf, kept]
  split
  · next empty =>
    rw [empty]
    rfl
  · rfl

/-- The latest reading of a label. -/
theorem getLatest_recorded (maxReadings : ℕ) (calls : List RecordCall) (nodeLabel : String) :
    (recorded maxReadings calls).getLatest nodeLabel = (readingsOf nodeLabel calls).getLast? :=
  (represents_recorded maxReadings calls).1.latest nodeLabel

/-- The labels with a latest reading are those that were recorded. -/
theorem getAllLatest_recorded (maxReadings : ℕ) (calls : List RecordCall) (nodeLabel : String) :
    (∃ reading, (nodeLabel, reading) ∈ (recorded maxReadings calls).getAllLatest.entries) ↔
      nodeLabel ∈ calls.map RecordCall.nodeLabel := by
  have latest := getLatest_recorded maxReadings calls nodeLabel
  rw [← readingsOf_ne_nil_iff]
  constructor
  · rintro ⟨reading, member⟩ empty
    have found : (recorded maxReadings calls).getLatest nodeLabel = some reading :=
      (Dict.mem_entries_iff _ nodeLabel reading).mp member
    rw [latest, empty] at found
    cases found
  · intro nonempty
    refine ⟨(readingsOf nodeLabel calls).getLast nonempty, ?_⟩
    apply (Dict.mem_entries_iff _ nodeLabel _).mpr
    exact latest.trans (List.getLast?_eq_getLast_of_ne_nil nonempty)

/-- Two stores answer alike about a label. -/
structure SameAbout (nodeLabel : String) (store other : DataStore) : Prop where
  count : other.getRecordCount nodeLabel = store.getRecordCount nodeLabel
  latest : other.getLatest nodeLabel = store.getLatest nodeLabel
  allLatest : other.getAllLatest.get? nodeLabel = store.getAllLatest.get? nodeLabel
  recent : ∀ n, other.getRecent nodeLabel n = store.getRecent nodeLabel n

/-- A recording under one label changes nothing that can be asked about another. -/
theorem record_sameAbout (store : DataStore) {nodeLabel other : String} (different : nodeLabel ≠ other)
    (reading : Reading) (now : ℚ) : SameAbout nodeLabel store (store.record other reading now) := by
  constructor
  · rw [DataStore.getRecordCount, DataStore.record, Dict.get?_set_ne _ different]
    rfl
  · exact DataStore.getLatest_record_ne store other reading now different
  · exact Dict.get?_set_ne _ different _
  · intro n
    rw [DataStore.getRecent, DataStore.record, Dict.get?_set_ne _ different]
    rfl

/-- After these calls the store answers from the log about a label and a number of readings. -/
structure AnswersFromLog (maxReadings : ℕ) (calls : List RecordCall) (nodeLabel : String) (n : ℕ) :
    Prop where
  count : (recorded maxReadings calls).getRecordCount nodeLabel =
    (readingsOf nodeLabel calls).length
  latest : (recorded maxReadings calls).getLatest nodeLabel = (readingsOf nodeLabel calls).getLast?
  labels : ∀ label, (∃ reading,
    (label, reading) ∈ (recorded maxReadings calls).getAllLatest.entries) ↔
      label ∈ calls.map RecordCall.nodeLabel
  recent : (recorded maxReadings calls).getRecent nodeLabel n = (readingsOf nodeLabel calls).rtake
    (min n (min maxReadings (readingsOf nodeLabel calls).length))
  frame : ∀ other reading now, nodeLabel ≠ other → SameAbout nodeLabel (recorded maxReadings calls)
    ((recorded maxReadings calls).record other reading now)

/-- One reading, and it is returned although none was asked for. -/
theorem no_readings_returns_buffer :
    ¬AnswersFromLog 1 [⟨"node_a", [], 0⟩] "node_a" 0 := by
  intro answers
  have whole := answers.recent
  rw [getRecent_zero] at whole
  have sizes := congrArg List.length whole
  rw [rtake_length, rtake_length] at sizes
  exact absurd sizes (by decide)

/-- The store answers from the log, except where no readings are asked for of a label that
has some. -/
theorem answersFromLog_iff (maxReadings : ℕ) (positive : 1 ≤ maxReadings) (calls : List RecordCall)
    (nodeLabel : String) (n : ℕ) : AnswersFromLog maxReadings calls nodeLabel n ↔
      1 ≤ n ∨ nodeLabel ∉ calls.map RecordCall.nodeLabel := by
  rw [← readingsOf_ne_nil_iff, not_not]
  constructor
  · intro answers
    by_contra neither
    obtain ⟨none, nonempty⟩ := not_or.mp neither
    obtain rfl : n = 0 := by omega
    have whole := answers.recent
    rw [getRecent_zero] at whole
    have sizes := congrArg List.length whole
    have inhabited := List.length_pos_iff.mpr nonempty
    rw [rtake_length, rtake_length] at sizes
    omega
  · intro condition
    constructor
    · exact getRecordCount_recorded maxReadings calls nodeLabel
    · exact getLatest_recorded maxReadings calls nodeLabel
    · exact getAllLatest_recorded maxReadings calls
    · by_cases empty : readingsOf nodeLabel calls = []
      · by_cases asked : n = 0
        · rw [asked, getRecent_zero, empty, List.rtake_nil, List.rtake_nil]
        · rw [getRecent_recorded calls nodeLabel asked, empty, List.rtake_nil, List.rtake_nil]
      · have asked : n ≠ 0 := Nat.pos_iff_ne_zero.mp (condition.resolve_right empty)
        rw [getRecent_recorded calls nodeLabel asked, ← min_assoc,
          ← rtake_rtake (min n maxReadings) (readingsOf nodeLabel calls).length,
          rtake_of_length_le le_rfl]
    · exact fun other reading now different => record_sameAbout _ different reading now

/-- A buffer of two, and the last of three readings. -/
theorem answersFromLog_iff_three : AnswersFromLog 2 [⟨"node_a", [], 0⟩, ⟨"node_b", [], 1⟩,
    ⟨"node_a", [], 2⟩, ⟨"node_a", [], 3⟩] "node_a" 1 :=
  (answersFromLog_iff 2 (by decide) _ "node_a" 1).mpr (.inl (by decide))

end Microgrid.Ems
