import Microgrid.Ems.DataStore
import Microgrid.Foundation.OrderStatistics
import Microgrid.Foundation.PythonSums

/-!
# The cross-node baseline

`get_median_v_bus` on stores whose voltages are rational numbers. The values are Python
numbers, integers of any size among them, and the sort compares them exactly. What it returns
is a `float`. If it can hold the voltages around the middle, and their sum does not overflow,
the baseline lies between them, and a coalition that holds no majority of the other nodes
cannot move it out of the range of the rest.

Otherwise it may leave that range, whatever the others report: two voltages may add up to
infinity, an integer may be too large to be converted at all, or be rounded by the conversion.
-/

namespace Microgrid.Ems

open PythonValues OrderStatistics FloatRounding

/-- The rational number that a number is; a `float` is one of those that there are. -/
def exactly : PyNumber → Option ℚ
  | .int value => some value
  | .float (.finite value) => if PyFloat.IsFloat value then some value else none
  | .float _ => none

/-- The rational number that a value is. -/
def rationalOf (value : PyValue) : Option ℚ := value.number?.bind exactly

namespace DataStore

/-- The voltages of a store are rational, where there are any. -/
def RationalVBus (store : DataStore) : Prop :=
  ∀ nodeLabel reading value, store.getLatest nodeLabel = some reading →
    reading.lookup "V_bus" = some value → value = .none ∨ (rationalOf value).isSome = true

/-- The latest voltages of the other nodes, as rationals. -/
def otherVoltages (store : DataStore) (excludeNode : String) : List ℚ :=
  (store.otherVBus excludeNode).filterMap rationalOf

end DataStore

/-- A `float` holds the voltages around the middle, and the sum of two of them fits. -/
structure MiddleFits (voltages : List ℚ) : Prop where
  lower : PyFloat.IsFloat (lowerMiddle voltages)
  upper : PyFloat.IsFloat (upperMiddle voltages)
  sum : voltages.length % 2 = 0 → |lowerMiddle voltages + upperMiddle voltages| < overflowBound

/-- The value of a number, where it is rational. -/
def valueOf (number : PyNumber) : ℚ := (exactly number).getD 0

/-- What the conversion to a `float` makes of a rational number. -/
def conversion (value : ℚ) : Except PyException PyFloat :=
  if overflowBound ≤ |value| then .error .overflow else .ok (.finite (binary64.nearest value))

/-- The median of an odd number of voltages, or of one that fits. -/
def medianOf (voltages : List ℚ) : Except PyException PyFloat :=
  if voltages.length % 2 = 0
  then .ok (.finite
    (binary64.nearest (binary64.nearest (lowerMiddle voltages + upperMiddle voltages) / 2)))
  else conversion (upperMiddle voltages)

/-- The numbers that a list of rational values are. -/
structure Rational (values : List PyValue) (numbers : List PyNumber) : Prop where
  read : values.mapM PyValue.number? = some numbers
  size : numbers.length = values.length
  each : ∀ number ∈ numbers, exactly number = some (valueOf number)
  voltages : values.filterMap rationalOf = numbers.map valueOf

/-- Rational values are numbers. -/
theorem rational_numbers {values : List PyValue}
    (rational : ∀ value ∈ values, (rationalOf value).isSome = true) :
    ∃ numbers, Rational values numbers := by
  induction values with
  | nil => exact ⟨[], rfl, rfl, nofun, rfl⟩
  | cons value rest inductionHypothesis =>
    obtain ⟨numbers, read, size, each, voltages⟩ :=
      inductionHypothesis fun other member => rational other (List.mem_cons_of_mem _ member)
    obtain ⟨volts, isRational⟩ := Option.isSome_iff_exists.mp (rational value List.mem_cons_self)
    obtain ⟨number, isNumber, exact⟩ := Option.bind_eq_some_iff.mp isRational
    have same : exactly number = some (valueOf number) := by rw [valueOf, exact, Option.getD_some]
    refine ⟨number :: numbers, ?_, ?_, ?_, ?_⟩
    · rw [List.mapM_cons, isNumber, read]
      rfl
    · rw [List.length_cons, size, List.length_cons]
    · intro other listed
      rcases List.mem_cons.mp listed with rfl | later
      · exact same
      · exact each other later
    · rw [List.filterMap_cons_some isRational, voltages, List.map_cons, valueOf, exact,
        Option.getD_some]

/-- A comparison of rational numbers is one of their values. -/
theorem exact_of_rational {number : PyNumber} (rational : exactly number = some (valueOf number)) :
    number.exact = .finite (valueOf number) := by
  cases number with
  | int value => rfl
  | float value =>
    cases value with
    | finite value =>
      rw [exactly] at rational
      split at rational
      · rw [← Option.some.inj rational]
        rfl
      · cases rational
    | infinite negative => cases rational
    | nan => cases rational

/-- Numbers of the same value become the same `float`. -/
theorem toFloat_of_rational {number : PyNumber}
    (rational : exactly number = some (valueOf number)) :
    number.toFloat = conversion (valueOf number) := by
  have exact := exact_of_rational rational
  cases number with
  | int value => rfl
  | float value =>
    rw [PyNumber.exact] at exact
    rw [exact, exactly] at rational
    split at rational
    · next isFloat =>
      rw [conversion, if_neg isFloat.2.not_ge, binary64.nearest_of_holds isFloat.1, ← exact]
      rfl
    · cases rational

/-- A number that a `float` holds stays when it is converted. -/
theorem conversion_of_isFloat {value : ℚ} (isFloat : PyFloat.IsFloat value) :
    conversion value = .ok (.finite value) := by
  rw [conversion, if_neg isFloat.2.not_ge, binary64.nearest_of_holds isFloat.1]

/-- Two numbers that floats hold are added as their values, and the sum is rounded. -/
theorem add_of_isFloat {left right : PyNumber} (leftRational : exactly left = some (valueOf left))
    (rightRational : exactly right = some (valueOf right)) (first : PyFloat.IsFloat (valueOf left))
    (second : PyFloat.IsFloat (valueOf right)) (fits : |valueOf left + valueOf right| < overflowBound) :
    ∃ total, left.add right = .ok total ∧
      total.toFloat = .ok (.finite (binary64.nearest (valueOf left + valueOf right))) := by
  have floats : (do
      let first ← left.toFloat
      let second ← right.toFloat
      pure (PyNumber.float (first.add second).rounded) : Except PyException PyNumber)
        = .ok (.float (.finite (binary64.nearest (valueOf left + valueOf right)))) := by
    rw [toFloat_of_rational leftRational, toFloat_of_rational rightRational,
      conversion_of_isFloat first, conversion_of_isFloat second, ← PyFloat.rounded_fits fits]
    rfl
  cases left with
  | int one =>
    cases right with
    | int other =>
      have values : valueOf (.int one) + valueOf (.int other) = ((one + other : ℤ) : ℚ) :=
        (Int.cast_add one other).symm
      rw [values] at fits ⊢
      exact ⟨.int (one + other), rfl, if_neg fits.not_ge⟩
    | float other => exact ⟨_, floats, rfl⟩
  | float one => exact ⟨_, floats, rfl⟩

/-- Sorting rational numbers sorts their values. -/
theorem sortNumbers_values {numbers : List PyNumber}
    (rational : ∀ number ∈ numbers, exactly number = some (valueOf number)) :
    (DataStore.sortNumbers numbers).map valueOf = ascending (numbers.map valueOf) := by
  apply List.map_insertionSort
  intro left leftListed right rightListed
  rw [PyNumber.lt, exact_of_rational (rational left leftListed),
    exact_of_rational (rational right rightListed), PyFloat.lt_finite]
  simp

section Middle

variable (floatOfStr : String → Except PyException PyFloat) {values : List PyValue}
  {numbers : List PyNumber} (rational : Rational values numbers)

include rational

/-- There are as many sorted numbers, and voltages, as values. -/
theorem Rational.lengths : (DataStore.sortNumbers numbers).length = values.length ∧
    (values.filterMap rationalOf).length = values.length := by
  constructor
  · exact (List.perm_insertionSort _ _).length_eq.trans rational.size
  · rw [rational.voltages, List.length_map, rational.size]

/-- A place of the sorted numbers holds a rational one, whose value is at that place of the sorted
values. -/
theorem Rational.place {index : ℕ} (inside : index < values.length) :
    ∃ number, item (DataStore.sortNumbers numbers) index = .ok number ∧
      exactly number = some (valueOf number) ∧
      (ascending (values.filterMap rationalOf)).getD index 0 = valueOf number := by
  have there : index < (DataStore.sortNumbers numbers).length := by
    rwa [rational.lengths.1]
  have listed : (DataStore.sortNumbers numbers)[index] ∈ numbers :=
    (List.perm_insertionSort _ _).mem_iff.mp (List.getElem_mem there)
  refine ⟨_, item_ok _ there, rational.each _ listed, ?_⟩
  rw [rational.voltages, ← sortNumbers_values rational.each,
    List.getD_eq_getElem _ _ (by rwa [List.length_map]), List.getElem_map]

/-- The middle of the values. -/
theorem Rational.middle (some : 0 < values.length)
    (fits : values.length % 2 = 0 → MiddleFits (values.filterMap rationalOf)) :
    DataStore.middle floatOfStr values = medianOf (values.filterMap rationalOf) := by
  obtain ⟨sameLength, voltages⟩ := rational.lengths
  obtain ⟨right, rightFound, rightRational, rightValue⟩ :=
    rational.place (show values.length / 2 < values.length by omega)
  have upper : upperMiddle (values.filterMap rationalOf) = valueOf right := by
    rw [upperMiddle, voltages, rightValue]
  rw [DataStore.middle, rational.read, medianOf, voltages]
  by_cases even : values.length % 2 = 0
  · obtain ⟨left, leftFound, leftRational, leftValue⟩ :=
      rational.place (show values.length / 2 - 1 < values.length by omega)
    have before : (values.length - 1) / 2 = values.length / 2 - 1 := by omega
    have lower : lowerMiddle (values.filterMap rationalOf) = valueOf left := by
      rw [lowerMiddle, voltages, before, leftValue]
    obtain ⟨lowerFloat, upperFloat, sum⟩ := fits even
    have fitting := sum (voltages ▸ even)
    rw [lower] at lowerFloat fitting ⊢
    rw [upper] at upperFloat fitting ⊢
    obtain ⟨total, added, converted⟩ :=
      add_of_isFloat leftRational rightRational lowerFloat upperFloat fitting
    have small : |binary64.nearest (valueOf left + valueOf right) / 2| < overflowBound := by
      have bounded := binary64.abs_nearest_le (valueOf left + valueOf right)
      rw [abs_div, abs_of_pos (two_pos : (0 : ℚ) < 2)]
      linarith
    simp only [sameLength, even, if_true, leftFound, rightFound, bind, Except.bind, added, converted,
      PyFloat.div_finite two_ne_zero, PyFloat.rounded_fits small]
    rfl
  · rw [upper, ← toFloat_of_rational rightRational]
    simp only [sameLength, even, if_false, rightFound, bind, Except.bind]

end Middle

/-- Every interval with more than half of the voltages holds their median. -/
theorem medianOf_mem_interval {voltages : List ℚ} (fits : MiddleFits voltages) :
    ∃ baseline, medianOf voltages = .ok (.finite baseline) ∧
      ∀ lo hi : ℚ, voltages.length < 2 * within lo hi voltages → lo ≤ baseline ∧ baseline ≤ hi := by
  rw [medianOf]
  split
  · obtain ⟨above, below⟩ := binary64.halfway_mem fits.lower.1 fits.upper.1
      (lowerMiddle_le_upperMiddle voltages)
    refine ⟨_, rfl, fun lo hi majority => ?_⟩
    obtain ⟨⟨lowerAbove, -⟩, -, upperBelow⟩ := middle_mem_interval majority
    exact ⟨lowerAbove.trans above, below.trans upperBelow⟩
  · refine ⟨_, conversion_of_isFloat fits.upper, fun lo hi majority => ?_⟩
    exact (middle_mem_interval majority).2

/-- Neither the condition nor the median depends on the order of the voltages. -/
theorem medianOf_congr {voltages others : List ℚ} (reordered : voltages.Perm others) :
    (MiddleFits voltages → MiddleFits others) ∧ medianOf voltages = medianOf others := by
  obtain ⟨lower, upper⟩ := middle_congr reordered
  refine ⟨fun fits => ?_, ?_⟩
  · constructor
    · exact lower ▸ fits.lower
    · exact upper ▸ fits.upper
    · rw [← lower, ← upper, ← reordered.length_eq]
      exact fits.sum
  · rw [medianOf, medianOf, lower, upper, reordered.length_eq]

namespace DataStore

/-- The values that enter the median are rational in a store with rational voltages. -/
theorem RationalVBus.values {store : DataStore} (rational : store.RationalVBus)
    (excludeNode : String) :
    ∀ value ∈ store.otherVBus excludeNode, (rationalOf value).isSome = true := by
  intro value member
  obtain ⟨⟨nodeLabel, reading⟩, listed, chosen⟩ := List.mem_filterMap.mp member
  have latest : store.getLatest nodeLabel = some reading :=
    (Dict.mem_entries_iff store.latest nodeLabel reading).mp listed
  dsimp only at chosen
  by_cases excluded : nodeLabel = excludeNode
  · rw [if_pos excluded] at chosen
    cases chosen
  · rw [if_neg excluded] at chosen
    cases found : reading.lookup "V_bus" with
    | none =>
      rw [found] at chosen
      cases chosen
    | some voltage =>
      rw [found] at chosen
      rcases rational nodeLabel reading voltage latest found with rfl | isRational
      · cases chosen
      · split at chosen
        · cases chosen
        · rwa [← Option.some.inj chosen]

/-- There are as many voltages as values. -/
theorem RationalVBus.length {store : DataStore} (rational : store.RationalVBus)
    (excludeNode : String) :
    (store.otherVoltages excludeNode).length = (store.otherVBus excludeNode).length :=
  List.filterMap_length_eq_length.mpr (rational.values excludeNode)

/-- Below two voltages there is no baseline, and from two on there is one or the method raises. -/
theorem getMedianVBus_eq_none (floatOfStr : String → Except PyException PyFloat) (store : DataStore)
    (excludeNode : String) :
    store.getMedianVBus floatOfStr excludeNode = .ok none ↔
      (store.otherVBus excludeNode).length < 2 := by
  rw [getMedianVBus]
  by_cases few : (store.otherVBus excludeNode).length < 2
  · rw [if_pos few]
    exact iff_of_true rfl few
  · rw [if_neg few]
    refine iff_of_false (fun none => ?_) few
    obtain ⟨median, -, impossible⟩ := bind_ok none
    cases impossible

/-- The baseline, from two voltages of other nodes on. -/
theorem getMedianVBus_rational (floatOfStr : String → Except PyException PyFloat)
    {store : DataStore} (rational : store.RationalVBus) (excludeNode : String)
    (several : 2 ≤ (store.otherVoltages excludeNode).length)
    (fits : (store.otherVoltages excludeNode).length % 2 = 0 →
      MiddleFits (store.otherVoltages excludeNode)) :
    store.getMedianVBus floatOfStr excludeNode =
      (medianOf (store.otherVoltages excludeNode)).map some := by
  obtain ⟨numbers, read⟩ := rational_numbers (rational.values excludeNode)
  rw [rational.length] at several fits
  rw [getMedianVBus, if_neg several.not_gt, read.middle floatOfStr (by omega) fits]
  rfl

/-- Stores with the same latest readings hold them in some order each. -/
theorem entries_perm {store other : DataStore}
    (same : ∀ nodeLabel, store.getLatest nodeLabel = other.getLatest nodeLabel) :
    store.latest.entries.Perm other.latest.entries := by
  apply (List.perm_ext_iff_of_nodup (List.Nodup.of_map _ store.latest.distinct)
    (List.Nodup.of_map _ other.latest.distinct)).mpr
  rintro ⟨nodeLabel, reading⟩
  have here : store.latest.get? nodeLabel = other.latest.get? nodeLabel := same nodeLabel
  rw [Dict.mem_entries_iff, Dict.mem_entries_iff, here]

/-- From two voltages of other nodes on, the baseline is a number that every interval with more than
half of them holds. -/
def WithinMajorities (floatOfStr : String → Except PyException PyFloat) (store : DataStore)
    (excludeNode : String) : Prop :=
  2 ≤ (store.otherVoltages excludeNode).length → ∃ baseline : ℚ,
    store.getMedianVBus floatOfStr excludeNode = .ok (some (.finite baseline)) ∧
    ∀ lo hi : ℚ, (store.otherVoltages excludeNode).length
        < 2 * within lo hi (store.otherVoltages excludeNode) → lo ≤ baseline ∧ baseline ≤ hi

/-- The baseline resists a minority: there is none exactly below two voltages of other nodes, and if
a `float` holds the voltages around the middle, and two of them do not overflow, then every interval
with more than half of them holds it. The order in which the nodes were first recorded does not
matter, under the same condition if the voltages are even in number. -/
theorem baseline_resists_minority (floatOfStr : String → Except PyException PyFloat)
    (store : DataStore) (excludeNode : String) (rational : store.RationalVBus) :
    let voltages := store.otherVoltages excludeNode
    (store.getMedianVBus floatOfStr excludeNode = .ok none ↔ voltages.length < 2) ∧
      (MiddleFits voltages → store.WithinMajorities floatOfStr excludeNode) ∧
      ((voltages.length % 2 = 0 → MiddleFits voltages) → ∀ other : DataStore,
        (∀ nodeLabel, other.getLatest nodeLabel = store.getLatest nodeLabel) →
        other.getMedianVBus floatOfStr excludeNode =
          store.getMedianVBus floatOfStr excludeNode) := by
  refine ⟨?_, fun fits several => ?_, fun fits other same => ?_⟩
  · rw [getMedianVBus_eq_none, rational.length]
  · obtain ⟨baseline, computed, majorities⟩ := medianOf_mem_interval fits
    refine ⟨baseline, ?_, majorities⟩
    rw [getMedianVBus_rational floatOfStr rational excludeNode several fun _ => fits, computed]
    rfl
  · have reordered : (other.otherVoltages excludeNode).Perm (store.otherVoltages excludeNode) :=
      ((entries_perm same).filterMap _).filterMap _
    have otherRational : other.RationalVBus := by
      intro nodeLabel reading value latest
      rw [same] at latest
      exact rational nodeLabel reading value latest
    by_cases few : (store.otherVoltages excludeNode).length < 2
    · have none := (getMedianVBus_eq_none floatOfStr store excludeNode).mpr
        (by rwa [← rational.length])
      rw [none, getMedianVBus_eq_none, ← otherRational.length, reordered.length_eq]
      exact few
    · rw [not_lt] at few
      have otherFits : (other.otherVoltages excludeNode).length % 2 = 0 →
          MiddleFits (other.otherVoltages excludeNode) := by
        rw [reordered.length_eq]
        exact fun even => (medianOf_congr reordered.symm).1 (fits even)
      rw [getMedianVBus_rational floatOfStr rational excludeNode few fits,
        getMedianVBus_rational floatOfStr otherRational excludeNode (reordered.length_eq ▸ few)
          otherFits, (medianOf_congr reordered).2]

/-- A recorded voltage that is rational keeps a store rational. -/
theorem RationalVBus.record {store : DataStore} (rational : store.RationalVBus) {value : PyValue}
    (isRational : (rationalOf value).isSome = true) (nodeLabel : String) :
    (store.record nodeLabel [("V_bus", value)] 0).RationalVBus := by
  intro other reading voltage latest found
  by_cases same : other = nodeLabel
  · rw [same, getLatest_record] at latest
    obtain rfl := Option.some.inj latest
    rw [lookup_recorded _ _ (by decide)] at found
    exact .inr (Option.some.inj found ▸ isRational)
  · rw [getLatest_record_ne _ _ _ _ same] at latest
    exact rational other reading voltage latest found

/-- Two nodes with a voltage each. -/
def pairStore (first second : PyValue) : DataStore :=
  ((DataStore.init maxReadingsPerNode).record "node_a" [("V_bus", first)] 0).record
    "node_b" [("V_bus", second)] 0

/-- The voltages of the two nodes are rational if they are. -/
theorem pairStore_rational {first second : PyValue} (one : (rationalOf first).isSome = true)
    (other : (rationalOf second).isSome = true) : (pairStore first second).RationalVBus := by
  have empty : (DataStore.init maxReadingsPerNode).RationalVBus := nofun
  exact (empty.record one "node_a").record other "node_b"

/-- What a third node is compared with. -/
theorem pairStore_voltages {first second : PyValue} {one other : ℚ}
    (isOne : rationalOf first = some one) (isOther : rationalOf second = some other) :
    (pairStore first second).otherVBus "node_c" = [first, second] ∧
      (pairStore first second).otherVoltages "node_c" = [one, other] := by
  have values : (pairStore first second).otherVBus "node_c" = [first, second] := by
    have entries : (pairStore first second).latest.entries =
        [("node_a", [("V_bus", first), ("server_ts", .float (.finite 0))]),
          ("node_b", [("V_bus", second), ("server_ts", .float (.finite 0))])] := rfl
    rw [otherVBus, entries, List.filterMap_cons_some (b := first),
      List.filterMap_cons_some (b := second)]
    · rfl
    · cases second <;> first | rfl | cases isOther
    · cases first <;> first | rfl | cases isOne
  refine ⟨values, ?_⟩
  rw [otherVoltages, values, List.filterMap_cons_some isOne, List.filterMap_cons_some isOther]
  rfl

/-- The middle of two voltages that a `float` holds fits if their sum does. -/
theorem middleFits_pair {one other : ℚ} (ordered : one ≤ other) (first : PyFloat.IsFloat one)
    (second : PyFloat.IsFloat other) (sum : |one + other| < overflowBound) :
    MiddleFits [one, other] := by
  have sorted : ascending [one, other] = [one, other] := by simp [ascending, ordered]
  have lower : lowerMiddle [one, other] = one := by simp [lowerMiddle, sorted]
  have upper : upperMiddle [one, other] = other := by simp [upperMiddle, sorted]
  constructor
  · rwa [lower]
  · rwa [upper]
  · exact fun _ => by rwa [lower, upper]

/-- For a third node the baseline of two nodes at 12 V and 14 V is within both. -/
theorem baseline_resists_minority_pair : ∃ baseline : ℚ,
    (pairStore (.float (.finite 12)) (.float (.finite 14))).getMedianVBus (fun _ => .error .value)
      "node_c" = .ok (some (.finite baseline)) ∧ 12 ≤ baseline ∧ baseline ≤ 14 := by
  have twelve : rationalOf (.float (.finite 12)) = some 12 := if_pos (by decide +kernel)
  have fourteen : rationalOf (.float (.finite 14)) = some 14 := if_pos (by decide +kernel)
  obtain ⟨-, voltages⟩ := pairStore_voltages twelve fourteen
  obtain ⟨-, resists, -⟩ := baseline_resists_minority (fun _ => .error .value)
    (pairStore (.float (.finite 12)) (.float (.finite 14))) "node_c"
    (pairStore_rational (twelve ▸ rfl) (fourteen ▸ rfl))
  have fits : MiddleFits [(12 : ℚ), 14] :=
    middleFits_pair (by norm_num) (by decide +kernel) (by decide +kernel) (by decide +kernel)
  have within := resists (voltages ▸ fits)
  rw [WithinMajorities, voltages] at within
  obtain ⟨baseline, computed, majority⟩ := within (by decide)
  exact ⟨baseline, computed, majority 12 14 (by decide)⟩

/-- If two nodes agree on a voltage, the interval of this one alone holds both. -/
theorem not_withinMajorities_pair {value : PyValue} {volts : ℚ}
    (rational : rationalOf value = some volts) {floatOfStr : String → Except PyException PyFloat}
    (apart : (pairStore value value).getMedianVBus floatOfStr "node_c"
      ≠ .ok (some (.finite volts))) :
    ¬(pairStore value value).WithinMajorities floatOfStr "node_c" := by
  intro majorities
  rw [WithinMajorities, (pairStore_voltages rational rational).2] at majorities
  obtain ⟨baseline, computed, interval⟩ := majorities (by simp)
  obtain ⟨above, below⟩ := interval volts volts (by simp [within])
  exact apart (le_antisymm below above ▸ computed)

/-- Two nodes, recorded in either order, report 1 as an integer and as a `float`, and two others an
integer between two floats. -/
def swappedStore (swapped : Bool) : DataStore :=
  let empty := DataStore.init maxReadingsPerNode
  let pair := if swapped
    then (empty.record "node_b" [("V_bus", .float (.finite 1))] 0).record
      "node_a" [("V_bus", .int 1)] 0
    else (empty.record "node_a" [("V_bus", .int 1)] 0).record
      "node_b" [("V_bus", .float (.finite 1))] 0
  (pair.record "node_d" [("V_bus", .int (2 ^ 53 + 1))] 0).record
    "node_e" [("V_bus", .int (2 ^ 53 + 1))] 0

/-- Two floats of the greatest magnitude add up to infinity, two integers beyond them raise, and an
integer between two floats is rounded, so the baseline of two nodes that agree need not be what they
agree on. Nor is it always the same for the same latest readings. -/
theorem agreement_missed :
    (∀ value : PyValue,
      value = .float (.finite (2 ^ 1023)) ∨ value = .int (10 ^ 400) ∨ value = .int (2 ^ 53 + 1) →
      (pairStore value value).RationalVBus ∧
        ¬(pairStore value value).WithinMajorities (fun _ => .error .value) "node_c") ∧
    ∃ store other : DataStore, store.RationalVBus ∧
      (∀ nodeLabel, other.getLatest nodeLabel = store.getLatest nodeLabel) ∧
      other.getMedianVBus (fun _ => .error .value) "node_c" ≠
        store.getMedianVBus (fun _ => .error .value) "node_c" := by
  constructor
  · rintro value (rfl | rfl | rfl)
    · have rational : rationalOf (.float (.finite (2 ^ 1023))) = some (2 ^ 1023) :=
        if_pos (by decide +kernel)
      exact ⟨pairStore_rational (rational ▸ rfl) (rational ▸ rfl),
        not_withinMajorities_pair rational (by decide +kernel)⟩
    · exact ⟨pairStore_rational rfl rfl, not_withinMajorities_pair rfl (by decide +kernel)⟩
    · exact ⟨pairStore_rational rfl rfl, not_withinMajorities_pair rfl (by decide +kernel)⟩
  · refine ⟨swappedStore false, swappedStore true, ?_, ?_, by decide +kernel⟩
    · have empty : (DataStore.init maxReadingsPerNode).RationalVBus := nofun
      have one : rationalOf (.float (.finite 1)) = some 1 := if_pos (by decide +kernel)
      exact (((empty.record rfl "node_a").record (one ▸ rfl) "node_b").record rfl "node_d").record
        rfl "node_e"
    · have reordered : (swappedStore true).latest.entries.Perm
          (swappedStore false).latest.entries := List.Perm.swap _ _ _
      intro nodeLabel
      apply Option.ext
      intro reading
      rw [getLatest, getLatest, ← Dict.mem_entries_iff, ← Dict.mem_entries_iff]
      exact reordered.mem_iff

end DataStore

end Microgrid.Ems
