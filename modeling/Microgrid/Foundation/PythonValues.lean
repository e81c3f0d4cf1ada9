import Mathlib.Data.List.Basic
import Microgrid.Foundation.FloatRounding

/-!
# Dynamically typed values

What `json.loads` hands over, and what the operators of the language make of it: sums,
quotients, comparisons and `sort` accept some types and raise for others.

A floating-point number is the rational that it stands for, an infinity or NaN. The
operations on it are exact; `rounded` is what a `float` makes of their results, and it is
applied wherever readings are added up, averaged, converted or compared. What the inference
computes from a few inputs within fixed bounds is left exact.

A dictionary keeps the order in which its keys were first inserted.
-/

namespace Microgrid.PythonValues

open FloatRounding

/-- The exceptions of the operators and of the standard library, by class. -/
inductive PyException where
  | type
  | value
  | key (name : String)
  | index
  | attribute
  | zeroDivision
  | overflow
  | struct
  | runtime (message : String)
  | connection
  | timeout
  | os
  | invalidTag
deriving DecidableEq

/-- A `float`. -/
inductive PyFloat where
  | finite (value : ℚ)
  | infinite (negative : Bool)
  | nan
deriving DecidableEq

/-- The entries of a dictionary, in the order in which their keys were first inserted. -/
abbrev Fields (α : Type) := List (String × α)

/-- A parsed JSON value. -/
inductive PyValue where
  | none
  | bool (value : Bool)
  | int (value : ℤ)
  | float (value : PyFloat)
  | str (text : String)
  | list (items : List PyValue)
  | dict (fields : List (String × PyValue))

/-- The values that arithmetic accepts. -/
inductive PyNumber where
  | int (value : ℤ)
  | float (value : PyFloat)
deriving DecidableEq

namespace Fields

variable {α : Type}

/-- `d[key] = value`: a new key goes to the end. -/
def set (fields : Fields α) (key : String) (value : α) : Fields α :=
  match fields with
  | [] => [(key, value)]
  | (found, old) :: rest =>
    if found = key then (key, value) :: rest else (found, old) :: set rest key value

/-- `d.setdefault(key, value)`. -/
def setdefault (fields : Fields α) (key : String) (value : α) : Fields α :=
  if (fields.lookup key).isSome then fields else set fields key value

/-- What was just set is there. -/
@[simp] theorem lookup_set_self (fields : Fields α) (key : String) (value : α) :
    (set fields key value).lookup key = some value := by
  induction fields with
  | nil => simp [set]
  | cons head rest inductionHypothesis =>
    obtain ⟨found, old⟩ := head
    by_cases same : found = key
    · simp [set, same]
    · have other : (key == found) = false := by simpa using fun equal => same equal.symm
      simp [set, same, List.lookup_cons, other, inductionHypothesis]

/-- Other keys keep their value. -/
theorem lookup_set_ne (fields : Fields α) {key other : String} (different : other ≠ key)
    (value : α) : (set fields key value).lookup other = fields.lookup other := by
  induction fields with
  | nil => simp [set, different]
  | cons head rest inductionHypothesis =>
    obtain ⟨found, old⟩ := head
    by_cases same : found = key
    · have apart : (other == found) = false := by simpa [same] using different
      have head : (other == key) = false := by simpa using different
      rw [set, if_pos same, List.lookup_cons, List.lookup_cons, apart, head]
    · rw [set, if_neg same, List.lookup_cons, List.lookup_cons, inductionHypothesis]

/-- A default does not touch the other keys. -/
theorem lookup_setdefault_ne (fields : Fields α) {key other : String} (different : other ≠ key)
    (value : α) : (setdefault fields key value).lookup other = fields.lookup other := by
  unfold setdefault
  split
  · rfl
  · exact lookup_set_ne fields different value

/-- An assignment adds its key at the end unless it is there already. -/
theorem keys_set (fields : Fields α) (key : String) (value : α) :
    (set fields key value).map Prod.fst =
      if key ∈ fields.map Prod.fst then fields.map Prod.fst else fields.map Prod.fst ++ [key] := by
  induction fields with
  | nil => rfl
  | cons head rest inductionHypothesis =>
    obtain ⟨found, old⟩ := head
    by_cases same : found = key
    · rw [set, if_pos same, if_pos (by simp [same]), List.map_cons, List.map_cons, same]
    · rw [set, if_neg same, List.map_cons, inductionHypothesis]
      by_cases later : key ∈ rest.map Prod.fst
      · have present : key ∈ ((found, old) :: rest).map Prod.fst := List.mem_cons_of_mem _ later
        rw [if_pos later, if_pos present, List.map_cons]
      · have absent : key ∉ ((found, old) :: rest).map Prod.fst := by
          rw [List.map_cons, List.mem_cons, not_or]
          exact ⟨fun equal => same equal.symm, later⟩
        rw [if_neg later, if_neg absent, List.map_cons, List.cons_append]

/-- An entry after an assignment is the new one, or an old one under another key. -/
theorem mem_set {fields : Fields α} {key : String} {value : α}
    (distinct : (fields.map Prod.fst).Nodup) {entry : String × α}
    (member : entry ∈ set fields key value) :
    entry = (key, value) ∨ entry ∈ fields ∧ entry.1 ≠ key := by
  induction fields with
  | nil => exact .inl (List.mem_singleton.mp member)
  | cons head rest inductionHypothesis =>
    obtain ⟨found, old⟩ := head
    obtain ⟨fresh, restDistinct⟩ := List.nodup_cons.mp distinct
    by_cases same : found = key
    · rw [set, if_pos same] at member
      rcases List.mem_cons.mp member with rfl | later
      · exact .inl rfl
      · refine .inr ⟨List.mem_cons_of_mem _ later, fun equal => fresh ?_⟩
        rw [same, ← equal]
        exact List.mem_map.mpr ⟨entry, later, rfl⟩
    · rw [set, if_neg same] at member
      rcases List.mem_cons.mp member with rfl | later
      · exact .inr ⟨List.mem_cons_self, same⟩
      · exact (inductionHypothesis restDistinct later).imp_right
          (And.imp_left (List.mem_cons_of_mem _))

/-- What depends on the values only in part does not tell two such assignments apart. -/
theorem map_set_congr {β : Type} (fields : Fields α) (key : String) {first second : α} (f : α → β)
    (same : f first = f second) :
    (set fields key first).map (fun entry => f entry.2)
      = (set fields key second).map (fun entry => f entry.2) := by
  induction fields with
  | nil => simp [set, same]
  | cons head rest inductionHypothesis =>
    rw [set, set]
    split
    · simp only [List.map_cons, same]
    · simp only [List.map_cons, inductionHypothesis]

/-- With distinct keys, an entry is what its key looks up. -/
theorem lookup_of_mem {fields : Fields α} (distinct : (fields.map Prod.fst).Nodup)
    {key : String} {value : α} (member : (key, value) ∈ fields) :
    fields.lookup key = some value := by
  induction fields with
  | nil => cases member
  | cons head rest inductionHypothesis =>
    obtain ⟨found, old⟩ := head
    obtain ⟨fresh, restDistinct⟩ := List.nodup_cons.mp distinct
    rcases List.mem_cons.mp member with same | later
    · obtain ⟨rfl, rfl⟩ := Prod.mk.inj same
      simp
    · have apart : key ≠ found := by
        rintro rfl
        exact fresh (List.mem_map.mpr ⟨_, later, rfl⟩)
      rw [List.lookup_cons, beq_eq_false_iff_ne.mpr apart]
      exact inductionHypothesis restDistinct later

/-- What a key looks up is one of the entries. -/
theorem mem_of_lookup {fields : Fields α} {key : String} {value : α}
    (found : fields.lookup key = some value) : (key, value) ∈ fields := by
  induction fields with
  | nil => cases found
  | cons head rest inductionHypothesis =>
    obtain ⟨first, old⟩ := head
    by_cases same : key = first
    · subst same
      rw [List.lookup_cons_self] at found
      rw [Option.some.inj found]
      exact List.mem_cons_self
    · rw [List.lookup_cons, beq_eq_false_iff_ne.mpr same] at found
      exact List.mem_cons_of_mem _ (inductionHypothesis found)

end Fields

/-- A `dict` with string keys. -/
structure Dict (α : Type) where
  entries : Fields α
  distinct : (entries.map Prod.fst).Nodup

namespace Dict

variable {α : Type}

/-- `{}`. -/
def empty : Dict α := ⟨[], List.nodup_nil⟩

/-- `d.get(key)`. -/
def get? (dict : Dict α) (key : String) : Option α := dict.entries.lookup key

/-- `d[key] = value`. -/
def set (dict : Dict α) (key : String) (value : α) : Dict α where
  entries := Fields.set dict.entries key value
  distinct := by
    rw [Fields.keys_set]
    split
    · exact dict.distinct
    · next absent =>
      refine List.nodup_append.mpr ⟨dict.distinct, by simp, fun other member last listed equal => ?_⟩
      rw [equal, List.mem_singleton.mp listed] at member
      exact absent member

@[simp] theorem get?_empty (key : String) : (empty : Dict α).get? key = none := rfl

@[simp] theorem get?_set_self (dict : Dict α) (key : String) (value : α) :
    (dict.set key value).get? key = some value := Fields.lookup_set_self dict.entries key value

theorem get?_set_ne (dict : Dict α) {key other : String} (different : other ≠ key) (value : α) :
    (dict.set key value).get? other = dict.get? other :=
  Fields.lookup_set_ne dict.entries different value

/-- The entries are exactly what the keys look up. -/
theorem mem_entries_iff (dict : Dict α) (key : String) (value : α) :
    (key, value) ∈ dict.entries ↔ dict.get? key = some value :=
  ⟨Fields.lookup_of_mem dict.distinct, Fields.mem_of_lookup⟩

end Dict

/-- From here on, a number does not fit a `float`: it rounds to the power of two that is too large. -/
def overflowBound : ℚ := 2 ^ 1024 - 2 ^ 970

namespace PyFloat

/-- `-x`. -/
def neg : PyFloat → PyFloat
  | .finite value => .finite (-value)
  | .infinite negative => .infinite (!negative)
  | .nan => .nan

/-- `x + y`. -/
def add : PyFloat → PyFloat → PyFloat
  | .finite left, .finite right => .finite (left + right)
  | .finite _, .infinite negative => .infinite negative
  | .infinite negative, .finite _ => .infinite negative
  | .infinite left, .infinite right => if left = right then .infinite left else .nan
  | _, _ => .nan

/-- `x - y`. -/
def sub (left right : PyFloat) : PyFloat := add left (neg right)

/-- `x * y`. -/
def mul : PyFloat → PyFloat → PyFloat
  | .finite left, .finite right => .finite (left * right)
  | .finite value, .infinite negative =>
    if value = 0 then .nan else .infinite (negative != decide (value < 0))
  | .infinite negative, .finite value =>
    if value = 0 then .nan else .infinite (negative != decide (value < 0))
  | .infinite left, .infinite right => .infinite (left != right)
  | _, _ => .nan

/-- `x / y`. -/
def div : PyFloat → PyFloat → Except PyException PyFloat
  | value, .finite divisor =>
    if divisor = 0 then .error .zeroDivision
    else .ok (match value with
      | .finite value => .finite (value / divisor)
      | .infinite negative => .infinite (negative != decide (divisor < 0))
      | .nan => .nan)
  | .finite _, .infinite _ => .ok (.finite 0)
  | _, _ => .ok .nan

/-- `x < y`; nothing is below or above NaN. -/
def lt : PyFloat → PyFloat → Bool
  | .finite left, .finite right => decide (left < right)
  | .finite _, .infinite negative => !negative
  | .infinite negative, .finite _ => negative
  | .infinite left, .infinite right => left && !right
  | _, _ => false

/-- `x <= y`. -/
def le : PyFloat → PyFloat → Bool
  | .finite left, .finite right => decide (left ≤ right)
  | .finite _, .infinite negative => !negative
  | .infinite negative, .finite _ => negative
  | .infinite left, .infinite right => left || !right
  | _, _ => false

/-- `min(x, y)`: the second argument only if it is below the first. -/
def pyMin (left right : PyFloat) : PyFloat := if lt right left then right else left

/-- `max(x, y)`: the second argument only if it is above the first. -/
def pyMax (left right : PyFloat) : PyFloat := if lt left right then right else left

/-- `abs(x)`. -/
def abs : PyFloat → PyFloat
  | .finite value => .finite |value|
  | .infinite _ => .infinite false
  | .nan => .nan

/-- `round(x, 1)`: ties to the even tenth. -/
def round1 : PyFloat → PyFloat
  | .finite value => .finite (roundEven (10 * value) / 10)
  | other => other

/-- The `float` of an exact result: the nearest one, or an infinity. -/
def rounded : PyFloat → PyFloat
  | .finite value =>
    if overflowBound ≤ |value| then .infinite (decide (value < 0))
    else .finite (binary64.nearest value)
  | other => other

/-- `round(x, 2)`: ties to the even hundredth. -/
def round2 : PyFloat → PyFloat
  | .finite value => .finite (binary64.nearest (roundEven (100 * value) / 100))
  | other => other

section Finite

variable (left right : ℚ)

@[simp] theorem add_finite : add (.finite left) (.finite right) = .finite (left + right) := rfl

@[simp] theorem sub_finite : sub (.finite left) (.finite right) = .finite (left - right) := by
  rw [sub, neg, add, sub_eq_add_neg]

@[simp] theorem mul_finite : mul (.finite left) (.finite right) = .finite (left * right) := rfl

@[simp] theorem le_finite : le (.finite left) (.finite right) = decide (left ≤ right) := rfl

@[simp] theorem lt_finite : lt (.finite left) (.finite right) = decide (left < right) := rfl

theorem div_finite {left right : ℚ} (nonzero : right ≠ 0) :
    div (.finite left) (.finite right) = .ok (.finite (left / right)) := if_neg nonzero

@[simp] theorem pyMin_finite : pyMin (.finite left) (.finite right) = .finite (min left right) := by
  rw [pyMin, lt_finite]
  by_cases less : right < left
  · rw [if_pos (decide_eq_true less), min_eq_right less.le]
  · rw [if_neg (by simpa using less), min_eq_left (not_lt.mp less)]

@[simp] theorem pyMax_finite : pyMax (.finite left) (.finite right) = .finite (max left right) := by
  rw [pyMax, lt_finite]
  by_cases less : left < right
  · rw [if_pos (decide_eq_true less), max_eq_right less.le]
  · rw [if_neg (by simpa using less), max_eq_left (not_lt.mp less)]

/-- A sum of finite numbers. -/
theorem sum_finite (values : List ℚ) (total : ℚ) :
    (values.map PyFloat.finite).foldl add (.finite total) = .finite (total + values.sum) := by
  induction values generalizing total with
  | nil => rw [List.map_nil, List.foldl_nil, List.sum_nil, add_zero]
  | cons value rest inductionHypothesis =>
    rw [List.map_cons, List.foldl_cons, add_finite, inductionHypothesis, List.sum_cons, add_assoc]

end Finite

/-- Only a zero divisor raises. -/
theorem div_returns (value : PyFloat) {divisor : ℚ} (nonzero : divisor ≠ 0) :
    ∃ quotient, value.div (.finite divisor) = .ok quotient := by
  cases value <;> exact ⟨_, if_neg nonzero⟩

/-- Rounding a finite number yields the nearest tenth. -/
theorem round1_near (value : ℚ) : ∃ tenths : ℤ,
    round1 (.finite value) = .finite (tenths / 10) ∧ |10 * value - tenths| ≤ 1 / 2 :=
  ⟨_, rfl, by rw [abs_sub_comm]; exact roundEven_near _⟩

/-- A `float` holds the number exactly. -/
def IsFloat (value : ℚ) : Prop := binary64.Holds value ∧ |value| < overflowBound

instance (value : ℚ) : Decidable (IsFloat value) := inferInstanceAs (Decidable (_ ∧ _))

/-- What fits is rounded to the nearest number. -/
theorem rounded_fits {value : ℚ} (fits : |value| < overflowBound) :
    rounded (.finite value) = .finite (binary64.nearest value) := if_neg fits.not_ge

/-- What a `float` holds stays. -/
theorem rounded_of_isFloat {value : ℚ} (isFloat : IsFloat value) :
    rounded (.finite value) = .finite value := by
  rw [rounded_fits isFloat.2, binary64.nearest_of_holds isFloat.1]

/-- Rounding makes no NaN. -/
theorem rounded_eq_nan (value : PyFloat) : value.rounded = .nan ↔ value = .nan := by
  cases value with
  | finite value =>
    rw [rounded]
    split <;> exact ⟨nofun, nofun⟩
  | infinite negative => exact Iff.rfl
  | nan => exact Iff.rfl

end PyFloat

/-- `float(n)`. -/
def floatOfInt (value : ℤ) : Except PyException PyFloat :=
  if overflowBound ≤ |(value : ℚ)| then .error .overflow
  else .ok (.finite (binary64.nearest value))

namespace PyNumber

/-- The number as an operand of an operation with a `float`. -/
def toFloat : PyNumber → Except PyException PyFloat
  | .int value => floatOfInt value
  | .float value => .ok value

/-- The number as an operand of a comparison, which is exact for every integer. -/
def exact : PyNumber → PyFloat
  | .int value => .finite value
  | .float value => value

/-- `x + y`. -/
def add : PyNumber → PyNumber → Except PyException PyNumber
  | .int left, .int right => .ok (.int (left + right))
  | left, right => do
    let left ← left.toFloat
    let right ← right.toFloat
    pure (.float (left.add right).rounded)

/-- `x / n` for a positive integer, the length of a list: of two integers, the exact quotient has
to fit. -/
def divNat : PyNumber → ℕ → Except PyException PyFloat
  | .int value, count =>
    if count = 0 then .error .zeroDivision
    else if overflowBound ≤ |(value : ℚ) / count| then .error .overflow
    else .ok (.finite (binary64.nearest (value / count)))
  | .float value, count => (value.div (.finite count)).map PyFloat.rounded

/-- `x < y`. -/
def lt (left right : PyNumber) : Bool := left.exact.lt right.exact

end PyNumber

/-- The number a value is, booleans included. -/
def PyValue.number? : PyValue → Option PyNumber
  | .bool value => some (.int (if value then 1 else 0))
  | .int value => some (.int value)
  | .float value => some (.float value)
  | _ => Option.none

/-- An operand of an arithmetic operation. -/
def PyValue.operand (value : PyValue) : Except PyException PyNumber :=
  match value.number? with
  | some number => .ok number
  | Option.none => .error .type

/-- What a computation that returned has passed through. -/
theorem bind_ok {α β : Type} {first : Except PyException α} {next : α → Except PyException β}
    {result : β} (returned : (first >>= next) = .ok result) :
    ∃ value, first = .ok value ∧ next value = .ok result := by
  cases first with
  | error exception => cases returned
  | ok value => exact ⟨value, rfl, returned⟩

/-- `values[i]`. -/
def item {α : Type} (values : List α) (index : ℕ) : Except PyException α :=
  match values[index]? with
  | some value => .ok value
  | none => .error .index

/-- An index within the list. -/
theorem item_ok {α : Type} (values : List α) {index : ℕ} (inside : index < values.length) :
    item values index = .ok values[index] := by
  rw [item, List.getElem?_eq_getElem inside]

/-- A loop none of whose rounds raises yields all their values. -/
theorem mapM_ok {α β γ : Type} (values : List α) (input : α → β) (f : β → Except PyException γ)
    (result : α → γ) (returns : ∀ value ∈ values, f (input value) = .ok (result value)) :
    (values.map input).mapM f = .ok (values.map result) := by
  induction values with
  | nil => rfl
  | cons value rest inductionHypothesis =>
    have later := inductionHypothesis fun other member => returns other (List.mem_cons_of_mem _ member)
    rw [List.map_cons, List.mapM_cons, returns value List.mem_cons_self, later]
    rfl

/-- One round of a sum. -/
def addValue (total : PyNumber) (value : PyValue) : Except PyException PyNumber := do
  let number ← value.operand
  total.add number

/-- `sum(values)`, which versions from 3.12 on compensate for the rounding of floats. -/
def pySum (values : List PyValue) : Except PyException PyNumber := values.foldlM addValue (.int 0)

/-- Some integers fit a `float`. -/
theorem overflowBound_pos : 0 < overflowBound :=
  sub_pos.mpr (pow_lt_pow_right₀ one_lt_two (by norm_num))

/-- The integer with which every sum starts. -/
theorem floatOfInt_zero : floatOfInt 0 = .ok (.finite 0) := by
  rw [floatOfInt, if_neg (by simpa using overflowBound_pos), Int.cast_zero, Format.nearest_zero]

/-- A sum of one `float`. -/
theorem pySum_singleton {value : ℚ} (isFloat : PyFloat.IsFloat value) :
    pySum [.float (.finite value)] = .ok (.float (.finite value)) := by
  have begins : PyNumber.add (.int 0) (.float (.finite value)) = .ok (.float (.finite value)) := by
    rw [PyNumber.add, PyNumber.toFloat, floatOfInt_zero]
    · simp only [bind, Except.bind, PyNumber.toFloat, PyFloat.add_finite, zero_add,
        PyFloat.rounded_of_isFloat isFloat]
      rfl
    · exact fun _ _ _ equal => PyNumber.noConfusion equal
  rw [pySum, List.foldlM_cons]
  simp only [addValue, PyValue.operand, PyValue.number?, bind, Except.bind, begins]
  rfl

end Microgrid.PythonValues
