import Mathlib.Data.List.Sort
import Microgrid.Foundation.PythonValues

/-!
# The sensor data store

The readings of all nodes as the server keeps them: a ring buffer, the latest reading and
a count for each label, and the cross-node median against which a new reading is checked.
A reading is a parsed JSON object, so its fields may have any type or be missing.

Every method holds the lock of the store, so each is one step of the server. `sort` is
modelled on numbers and on strings. No other values can end in a median: a mixture does
not compare, and lists, which do, cannot be halved; either raises the same exception.
-/

namespace Microgrid.Ems

open PythonValues

/-- A sensor reading. -/
abbrev Reading := Fields PyValue

/-- `_MAX_READINGS_PER_NODE`. -/
def maxReadingsPerNode : ℕ := 10800

/-- `DataStore`. -/
structure DataStore where
  maxReadings : ℕ
  buffers : Dict (List Reading)
  latest : Dict Reading
  recordCounts : Dict ℕ

namespace DataStore

/-- `DataStore(max_readings)`. -/
def init (maxReadings : ℕ) : DataStore := ⟨maxReadings, .empty, .empty, .empty⟩

/-- `deque.append` with `maxlen`: what does not fit falls out at the front. -/
def appendBounded (maxlen : ℕ) (buffer : List Reading) (reading : Reading) : List Reading :=
  (buffer ++ [reading]).drop (buffer.length + 1 - maxlen)

/-- `record`, at the server's time `now`. -/
def record (store : DataStore) (nodeLabel : String) (reading : Reading) (now : ℚ) : DataStore :=
  let reading := Fields.setdefault reading "server_ts" (.float (.finite now))
  let buffer := (store.buffers.get? nodeLabel).getD []
  let count := if (store.buffers.get? nodeLabel).isSome
    then (store.recordCounts.get? nodeLabel).getD 0 else 0
  { store with
    buffers := store.buffers.set nodeLabel (appendBounded store.maxReadings buffer reading)
    latest := store.latest.set nodeLabel reading
    recordCounts := store.recordCounts.set nodeLabel (count + 1) }

/-- `get_latest`. -/
def getLatest (store : DataStore) (nodeLabel : String) : Option Reading :=
  store.latest.get? nodeLabel

/-- `get_all_latest`. -/
def getAllLatest (store : DataStore) : Dict Reading := store.latest

/-- The `V_bus` values that enter the median: `None` stands for a missing field as well. -/
def otherVBus (store : DataStore) (excludeNode : String) : List PyValue :=
  store.latest.entries.filterMap fun (node, reading) =>
    if node = excludeNode then none
    else match reading.lookup "V_bus" with
      | some .none => none
      | value => value

/-- `list.sort` on numbers. -/
def sortNumbers (values : List PyNumber) : List PyNumber :=
  values.insertionSort fun left right => right.lt left = false

/-- `list.sort` on strings. -/
def sortTexts (values : List String) : List String :=
  values.insertionSort fun left right => ¬right < left

/-- The text a value is. -/
def text? : PyValue → Option String
  | .str text => some text
  | _ => none

/-- The middle of two or more values; `floatOfStr` is the `float` of a string. -/
def middle (floatOfStr : String → Except PyException PyFloat) (values : List PyValue) :
    Except PyException PyFloat :=
  match values.mapM PyValue.number? with
  | some numbers => do
    let sorted := sortNumbers numbers
    let half := sorted.length / 2
    if sorted.length % 2 = 0 then
      let total ← (← item sorted (half - 1)).add (← item sorted half)
      let quotient ← (← total.toFloat).div (.finite 2)
      pure quotient.rounded
    else
      (← item sorted half).toFloat
  | none =>
    match values.mapM text? with
    | some texts => do
      let sorted := sortTexts texts
      if sorted.length % 2 = 0 then .error .type
      else floatOfStr (← item sorted (sorted.length / 2))
    | none => .error .type

/-- `get_median_v_bus`. -/
def getMedianVBus (floatOfStr : String → Except PyException PyFloat) (store : DataStore)
    (excludeNode : String) : Except PyException (Option PyFloat) :=
  let values := store.otherVBus excludeNode
  if values.length < 2 then .ok none
  else do
    let median ← middle floatOfStr values
    pure (some median)

section Recording

variable (store : DataStore) (nodeLabel : String) (reading : Reading) (now : ℚ)

/-- The reading that is kept: the server's time is added unless the node sent one. -/
theorem latest_record : (store.record nodeLabel reading now).latest =
    store.latest.set nodeLabel (Fields.setdefault reading "server_ts" (.float (.finite now))) := rfl

/-- A recording replaces the latest reading of its label. -/
theorem getLatest_record : (store.record nodeLabel reading now).getLatest nodeLabel
    = some (Fields.setdefault reading "server_ts" (.float (.finite now))) :=
  Dict.get?_set_self _ _ _

/-- A recording leaves the readings of the other labels. -/
theorem getLatest_record_ne {other : String} (different : other ≠ nodeLabel) :
    (store.record nodeLabel reading now).getLatest other = store.getLatest other :=
  Dict.get?_set_ne _ different _

/-- A field other than the server's time is kept as it was sent. -/
theorem lookup_recorded {field : String} (ordinary : field ≠ "server_ts") :
    (Fields.setdefault reading "server_ts" (.float (.finite now))).lookup field
      = reading.lookup field := Fields.lookup_setdefault_ne reading ordinary _

end Recording

end DataStore

end Microgrid.Ems
