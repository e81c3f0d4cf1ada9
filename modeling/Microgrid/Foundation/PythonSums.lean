import Mathlib.Algebra.Order.BigOperators.Group.List
import Mathlib.Data.List.Sublists
import Microgrid.Foundation.PythonValues

/-!
# Sums that raise nothing

A sum of numbers raises only where an integer has to become a `float` and does not fit,
and it yields NaN only from NaN or from infinities of both signs, of which one may be a sum
that has overflowed. Lists that are safe from all of this (`Tame`) can be added up, averaged
and halved, in any order and after leaving some numbers out.

Rounding may add to a sum. A summand that is a `float` adds twice its size at most, since the
total before it is a `float` as well, and an integer twice as much again, being rounded itself;
so a quarter of the range is safe.
-/

namespace Microgrid.PythonValues

open FloatRounding

/-- The size of a number, where it has one. -/
def PyNumber.magnitude : PyNumber → ℚ
  | .int value => |(value : ℚ)|
  | .float (.finite value) => |value|
  | .float _ => 0

/-- The number as a `float`. -/
def PyNumber.converted : PyNumber → PyFloat
  | .int value => .finite (binary64.nearest value)
  | .float value => value

/-- No NaN, infinities of one sign at most, and all finite numbers together within a quarter of the
range. -/
structure Tame (numbers : List PyNumber) : Prop where
  numeric : PyNumber.float .nan ∉ numbers
  oneSided : ∀ negative, PyNumber.float (.infinite negative) ∈ numbers →
    PyNumber.float (.infinite (!negative)) ∉ numbers
  fits : 4 * (numbers.map PyNumber.magnitude).sum < overflowBound

theorem PyNumber.magnitude_nonneg (number : PyNumber) : 0 ≤ number.magnitude := by
  unfold magnitude
  split
  · exact abs_nonneg _
  · exact abs_nonneg _
  · exact le_rfl

/-- The magnitudes of any list are not negative together. -/
theorem magnitudes_nonneg (numbers : List PyNumber) :
    0 ≤ (numbers.map PyNumber.magnitude).sum := by
  refine List.sum_nonneg fun value listed => ?_
  obtain ⟨number, -, rfl⟩ := List.mem_map.mp listed
  exact number.magnitude_nonneg

/-- Leaving numbers out and reordering the rest keeps a list tame. -/
theorem Tame.subperm {fewer numbers : List PyNumber} (tame : Tame numbers)
    (within : fewer.Subperm numbers) : Tame fewer := by
  obtain ⟨middle, reordered, left⟩ := within
  have included : ∀ number ∈ fewer, number ∈ numbers :=
    fun number member => left.subset (reordered.mem_iff.mpr member)
  refine ⟨fun member => tame.numeric (included _ member), ?_, ?_⟩
  · intro negative one other
    exact tame.oneSided negative (included _ one) (included _ other)
  · have fewerThan : (fewer.map PyNumber.magnitude).sum ≤ (numbers.map PyNumber.magnitude).sum := by
      rw [← (reordered.map _).sum_eq]
      refine (left.map _).sum_le_sum fun value listed => ?_
      obtain ⟨number, -, rfl⟩ := List.mem_map.mp listed
      exact number.magnitude_nonneg
    linarith [tame.fits]

/-- A number that fits becomes a `float`. -/
theorem PyNumber.toFloat_fits {number : PyNumber} (fits : number.magnitude < overflowBound) :
    number.toFloat = .ok number.converted := by
  cases number with
  | int value => exact if_neg fits.not_ge
  | float value => rfl

/-- Only NaN stands for NaN. -/
theorem PyNumber.exact_eq_nan {number : PyNumber} :
    number.exact = .nan ↔ number = .float .nan := by
  cases number with
  | int value => exact ⟨nofun, nofun⟩
  | float value => rw [PyNumber.exact, PyNumber.float.injEq]

/-- Only NaN is converted to NaN. -/
theorem PyNumber.converted_eq_nan {number : PyNumber} :
    number.converted = .nan ↔ number = .float .nan := by
  cases number with
  | int value => exact ⟨nofun, nofun⟩
  | float value => rw [PyNumber.converted, PyNumber.float.injEq]

/-- Only an infinity is converted to an infinity. -/
theorem PyNumber.converted_eq_infinite {number : PyNumber} {negative : Bool} :
    number.converted = .infinite negative ↔ number = .float (.infinite negative) := by
  cases number with
  | int value => exact ⟨nofun, nofun⟩
  | float value => rw [PyNumber.converted, PyNumber.float.injEq]

/-- A number becomes a `float` of twice its size at most. -/
theorem PyNumber.converted_size {number : PyNumber} {value : ℚ}
    (finite : number.converted = .finite value) : |value| ≤ 2 * number.magnitude := by
  cases number with
  | int whole =>
    rw [← PyFloat.finite.inj finite]
    exact binary64.abs_nearest_le _
  | float inner =>
    rw [show inner = .finite value from finite, PyNumber.magnitude]
    linarith [abs_nonneg value]

/-- A sum of floats is NaN only by NaN or opposite infinities, and infinite only by an
infinity of its sign or by overflow. -/
theorem PyFloat.add_tame {left right : PyFloat} (leftNumeric : left ≠ .nan)
    (rightNumeric : right ≠ .nan)
    (oneSided : ∀ negative, left = .infinite negative → right ≠ .infinite (!negative))
    (fits : ∀ one other, left = .finite one → right = .finite other → |one + other| < overflowBound) :
    (∃ one other, left = .finite one ∧ right = .finite other ∧
        (left.add right).rounded = .finite (binary64.nearest (one + other))) ∨
      ∃ negative, (left.add right).rounded = .infinite negative ∧
        (left = .infinite negative ∨ right = .infinite negative) := by
  cases left with
  | nan => exact absurd rfl leftNumeric
  | finite value =>
    cases right with
    | nan => exact absurd rfl rightNumeric
    | finite other =>
      exact .inl ⟨value, other, rfl, rfl, rounded_fits (fits value other rfl rfl)⟩
    | infinite negative => exact .inr ⟨negative, rfl, .inr rfl⟩
  | infinite negative =>
    cases right with
    | nan => exact absurd rfl rightNumeric
    | finite other => exact .inr ⟨negative, rfl, .inl rfl⟩
    | infinite other =>
      have same : negative = other := by
        have apart : other ≠ !negative := fun opposite => oneSided negative rfl (by rw [opposite])
        revert apart
        cases negative <;> cases other <;> simp
      rw [same, PyFloat.add, if_pos rfl]
      exact .inr ⟨other, rfl, .inl rfl⟩

/-- Of numbers that fit, a sum that is not one of integers is the rounded sum of the floats. -/
theorem PyNumber.add_mixed {left right : PyNumber} (leftFits : left.magnitude < overflowBound)
    (rightFits : right.magnitude < overflowBound)
    (mixed : ∀ first second, ¬(left = .int first ∧ right = .int second)) :
    left.add right = .ok (.float (left.converted.add right.converted).rounded) := by
  have floats : (do
      let first ← left.toFloat
      let second ← right.toFloat
      pure (PyNumber.float (first.add second).rounded) : Except PyException PyNumber)
        = .ok (.float (left.converted.add right.converted).rounded) := by
    rw [toFloat_fits leftFits, toFloat_fits rightFits]
    rfl
  rw [← floats]
  cases left with
  | int first =>
    cases right with
    | int second => exact absurd ⟨rfl, rfl⟩ (mixed first second)
    | float second => rfl
  | float first => rfl

/-- The size of a running total, with room for the rounding that an integer has yet to undergo. -/
def PyNumber.reserve : PyNumber → ℚ
  | .int value => 4 * |(value : ℚ)|
  | .float (.finite value) => |value|
  | .float _ => 0

/-- A running total and the numbers that are left to add. -/
structure Running (total : PyNumber) (rest : List PyNumber) : Prop where
  numeric : PyNumber.float .nan ∉ total :: rest
  oneSided : ∀ negative, PyNumber.float (.infinite negative) ∈ total :: rest →
    PyNumber.float (.infinite (!negative)) ∉ total :: rest
  held : ∀ value, total = .float (.finite value) → binary64.Holds value
  fits : total.reserve + 4 * (rest.map PyNumber.magnitude).sum < overflowBound

/-- A total is within its reserve. -/
theorem PyNumber.magnitude_le_reserve (number : PyNumber) : number.magnitude ≤ number.reserve := by
  unfold magnitude reserve
  split
  · linarith [abs_nonneg ((‹ℤ› : ℤ) : ℚ)]
  · exact le_rfl
  · exact le_rfl

/-- The float of a running total and the next number have room for each other, and the rounded sum
takes what both have reserved at most. -/
theorem Running.room {total next : PyNumber} {rest : List PyNumber}
    (running : Running total (next :: rest))
    (mixed : ∀ first second, ¬(total = .int first ∧ next = .int second)) {one other : ℚ}
    (left : total.converted = .finite one) (right : next.converted = .finite other) :
    |one + other| < overflowBound ∧
      |binary64.nearest (one + other)| ≤ total.reserve + 4 * next.magnitude := by
  have sum := abs_add_le one other
  have restNonneg := magnitudes_nonneg rest
  have budget := running.fits
  rw [List.map_cons, List.sum_cons] at budget
  have bounded : |one + other| ≤ total.reserve + 4 * next.magnitude ∧
      |binary64.nearest (one + other)| ≤ total.reserve + 4 * next.magnitude := by
    cases total with
    | int first =>
      cases next with
      | int second => exact absurd ⟨rfl, rfl⟩ (mixed first second)
      | float second =>
        have size := PyNumber.converted_size left
        have held : binary64.Holds one := PyFloat.finite.inj left ▸ binary64.holds_nearest _
        have nearest := binary64.abs_nearest_add_le held other
        rw [show second = .finite other from right]
        simp only [PyNumber.magnitude, PyNumber.reserve] at size ⊢
        have nonneg := abs_nonneg other
        have wholeNonneg := abs_nonneg (first : ℚ)
        constructor <;> linarith
    | float first =>
      have float : first = .finite one := left
      have nearest := binary64.abs_nearest_add_le (running.held one (congrArg _ float)) other
      have size := PyNumber.converted_size right
      have nonneg := next.magnitude_nonneg
      rw [float]
      simp only [PyNumber.reserve]
      constructor <;> linarith
  exact ⟨bounded.1.trans_lt (by linarith), bounded.2⟩

/-- A sum that is held and has its room goes on as the running total, unless it is NaN or an infinity
that was not there before. -/
theorem Running.continued {total next sum : PyNumber} {rest : List PyNumber}
    (running : Running total (next :: rest))
    (special : (sum = .float .nan ∨ ∃ negative, sum = .float (.infinite negative)) →
      sum ∈ total :: next :: rest)
    (held : ∀ value, sum = .float (.finite value) → binary64.Holds value)
    (fits : sum.reserve + 4 * (rest.map PyNumber.magnitude).sum < overflowBound) :
    Running sum rest := by
  have among : ∀ number ∈ sum :: rest,
      (number = .float .nan ∨ ∃ negative, number = .float (.infinite negative)) →
        number ∈ total :: next :: rest := by
    intro number member isSpecial
    rcases List.mem_cons.mp member with rfl | later
    · exact special isSpecial
    · exact List.mem_cons_of_mem _ (List.mem_cons_of_mem _ later)
  refine ⟨fun member => running.numeric (among _ member (.inl rfl)), ?_, held, fits⟩
  intro negative one other
  exact running.oneSided negative (among _ one (.inr ⟨_, rfl⟩)) (among _ other (.inr ⟨_, rfl⟩))

/-- Two integers are added exactly. -/
theorem Running.addIntegers {first second : ℤ} {rest : List PyNumber}
    (running : Running (.int first) (.int second :: rest)) : Running (.int (first + second)) rest := by
  refine running.continued ?_ nofun ?_
  · rintro (impossible | ⟨_, impossible⟩) <;> cases impossible
  · have sum : |((first + second : ℤ) : ℚ)| ≤ |(first : ℚ)| + |(second : ℚ)| := by
      push_cast
      exact abs_add_le _ _
    have budget := running.fits
    rw [List.map_cons, List.sum_cons] at budget
    simp only [PyNumber.magnitude, PyNumber.reserve] at budget ⊢
    linarith

/-- Other numbers are added as floats. -/
theorem Running.addFloats {total next : PyNumber} {rest : List PyNumber}
    (running : Running total (next :: rest))
    (mixed : ∀ first second, ¬(total = .int first ∧ next = .int second)) :
    Running (.float (total.converted.add next.converted).rounded) rest := by
  have budget := running.fits
  rw [List.map_cons, List.sum_cons] at budget
  have first : total ∈ total :: next :: rest := List.mem_cons_self
  have second : next ∈ total :: next :: rest := List.mem_cons_of_mem _ List.mem_cons_self
  have leftNumeric : total.converted ≠ .nan := fun nan =>
    running.numeric (PyNumber.converted_eq_nan.mp nan ▸ first)
  have rightNumeric : next.converted ≠ .nan := fun nan =>
    running.numeric (PyNumber.converted_eq_nan.mp nan ▸ second)
  have oneSided : ∀ negative, total.converted = .infinite negative →
      next.converted ≠ .infinite (!negative) := fun negative one other =>
    running.oneSided negative (PyNumber.converted_eq_infinite.mp one ▸ first)
      (PyNumber.converted_eq_infinite.mp other ▸ second)
  rcases PyFloat.add_tame leftNumeric rightNumeric oneSided
    (fun one other left right => (running.room mixed left right).1) with
    ⟨one, other, left, right, sum⟩ | ⟨negative, sum, source⟩
  · have room := (running.room mixed left right).2
    rw [sum]
    refine running.continued ?_ ?_ ?_
    · rintro (impossible | ⟨_, impossible⟩) <;> cases impossible
    · rintro value same
      rw [← PyFloat.finite.inj (PyNumber.float.inj same)]
      exact binary64.holds_nearest _
    · simp only [PyNumber.reserve]
      linarith
  · -- an infinite sum is one of the two summands, so it meets the rest as that one did
    rw [sum]
    refine running.continued (fun _ => ?_) nofun ?_
    · rcases source with one | other
      · exact PyNumber.converted_eq_infinite.mp one ▸ first
      · exact PyNumber.converted_eq_infinite.mp other ▸ second
    · have nextNonneg := next.magnitude_nonneg
      have totalNonneg := total.magnitude_nonneg
      have totalReserve := total.magnitude_le_reserve
      simp only [PyNumber.reserve]
      linarith

/-- Adding the next number raises nothing, and the sum goes on as the running total. -/
theorem Running.add {total next : PyNumber} {rest : List PyNumber}
    (running : Running total (next :: rest)) :
    ∃ sum, total.add next = .ok sum ∧ Running sum rest := by
  by_cases integers : ∃ first second, total = .int first ∧ next = .int second
  · obtain ⟨first, second, rfl, rfl⟩ := integers
    exact ⟨.int (first + second), rfl, running.addIntegers⟩
  · have mixed : ∀ first second, ¬(total = .int first ∧ next = .int second) :=
      fun first second both => integers ⟨first, second, both⟩
    have budget := running.fits
    rw [List.map_cons, List.sum_cons] at budget
    have restNonneg := magnitudes_nonneg rest
    have nextNonneg := next.magnitude_nonneg
    have totalNonneg := total.magnitude_nonneg
    have totalReserve := total.magnitude_le_reserve
    have leftFits : total.magnitude < overflowBound := by linarith
    have rightFits : next.magnitude < overflowBound := by linarith
    exact ⟨_, PyNumber.add_mixed leftFits rightFits mixed, running.addFloats mixed⟩

/-- Values that are numbers, and as numbers tame. -/
structure Ordinary (values : List PyValue) : Prop where
  numbers : ∀ value ∈ values, ∃ number, value.number? = some number
  tame : Tame (values.filterMap PyValue.number?)

/-- Finite floats within a quarter of the range are ordinary. -/
theorem ordinary_finite (values : List ℚ) (fits : 4 * (values.map abs).sum < overflowBound) :
    Ordinary (values.map fun value => .float (.finite value)) := by
  have numbers : (values.map fun value => PyValue.float (.finite value)).filterMap PyValue.number?
      = values.map fun value => .float (.finite value) := by
    rw [List.filterMap_map]
    exact List.filterMap_eq_map_iff_forall_eq_some.mpr fun value _ => rfl
  refine ⟨?_, ?_, ?_, ?_⟩
  · intro value listed
    obtain ⟨number, -, rfl⟩ := List.mem_map.mp listed
    exact ⟨_, rfl⟩
  · rw [numbers]
    simp
  · rw [numbers]
    simp
  · rw [numbers, List.map_map]
    exact fits

/-- Leaving values out keeps a list ordinary. -/
theorem Ordinary.sublist {fewer values : List PyValue} (ordinary : Ordinary values)
    (within : fewer.Sublist values) : Ordinary fewer :=
  ⟨fun value member => ordinary.numbers value (within.subset member),
    ordinary.tame.subperm (within.filterMap _).subperm⟩

/-- Reading off the numbers of values that are all numbers. -/
theorem mapM_number (values : List PyValue)
    (numbers : ∀ value ∈ values, ∃ number, value.number? = some number) :
    values.mapM PyValue.number? = some (values.filterMap PyValue.number?) := by
  induction values with
  | nil => rfl
  | cons value rest inductionHypothesis =>
    obtain ⟨number, read⟩ := numbers value List.mem_cons_self
    have later := inductionHypothesis fun other member => numbers other (List.mem_cons_of_mem _ member)
    rw [List.mapM_cons, read, later, List.filterMap_cons, read]
    rfl

/-- Adding tame numbers up raises nothing, whatever total one starts from. -/
theorem foldlM_addValue (values : List PyValue) (total : PyNumber)
    (numbers : ∀ value ∈ values, ∃ number, value.number? = some number)
    (running : Running total (values.filterMap PyValue.number?)) :
    ∃ sum, values.foldlM addValue total = .ok sum ∧ Running sum [] := by
  induction values generalizing total with
  | nil => exact ⟨total, rfl, running⟩
  | cons value rest inductionHypothesis =>
    obtain ⟨number, read⟩ := numbers value List.mem_cons_self
    rw [List.filterMap_cons_some read] at running
    obtain ⟨next, added, goesOn⟩ := running.add
    obtain ⟨sum, summed, ended⟩ := inductionHypothesis next
      (fun other member => numbers other (List.mem_cons_of_mem _ member)) goesOn
    refine ⟨sum, ?_, ended⟩
    have round : addValue total value = .ok next := by
      rw [addValue, PyValue.operand, read]
      exact added
    rw [List.foldlM_cons, round]
    exact summed

/-- Every sum begins with an integer, and tame numbers leave room for them all. -/
theorem Tame.running {numbers : List PyNumber} (tame : Tame numbers) :
    Running (.int 0) numbers where
  numeric := by
    rw [List.mem_cons, not_or]
    exact ⟨nofun, tame.numeric⟩
  oneSided := by
    intro negative one other
    rcases List.mem_cons.mp one with impossible | one
    · cases impossible
    · rcases List.mem_cons.mp other with impossible | other
      · cases impossible
      · exact tame.oneSided negative one other
  held := nofun
  fits := by
    simpa [PyNumber.reserve] using tame.fits

/-- The sum of ordinary values. -/
theorem Ordinary.sum {values : List PyValue} (ordinary : Ordinary values) :
    ∃ sum, pySum values = .ok sum ∧ Running sum [] :=
  foldlM_addValue values (.int 0) ordinary.numbers ordinary.tame.running

/-- A value that is not a number stops every sum it enters. -/
theorem foldlM_addValue_raises {values : List PyValue} {value : PyValue} (listed : value ∈ values)
    (other : value.number? = none) (total : PyNumber) :
    ∃ exception, values.foldlM addValue total = .error exception := by
  induction values generalizing total with
  | nil => cases listed
  | cons head rest inductionHypothesis =>
    rw [List.foldlM_cons]
    cases round : addValue total head with
    | error exception => exact ⟨exception, rfl⟩
    | ok next =>
      rcases List.mem_cons.mp listed with rfl | later
      · rw [addValue, PyValue.operand, other] at round
        cases round
      · exact inductionHypothesis later next

/-- A total fits a `float`. -/
theorem Running.fits_total {total : PyNumber} (ended : Running total []) :
    total.magnitude < overflowBound := by
  have fits := ended.fits
  rw [List.map_nil, List.sum_nil, mul_zero, add_zero] at fits
  exact total.magnitude_le_reserve.trans_lt fits

/-- A total is not NaN. -/
theorem Running.exact_ne_nan {total : PyNumber} (ended : Running total []) : total.exact ≠ .nan :=
  fun nan => ended.numeric (PyNumber.exact_eq_nan.mp nan ▸ List.mem_cons_self)

/-- Dividing a total by a positive integer. -/
theorem Running.divNat {total : PyNumber} (ended : Running total []) {count : ℕ}
    (positive : 0 < count) : ∃ quotient, total.divNat count = .ok quotient ∧ quotient ≠ .nan := by
  cases total with
  | int value =>
    have fits : |(value : ℚ)| < overflowBound := ended.fits_total
    have smaller : |(value : ℚ) / count| ≤ |(value : ℚ)| := by
      rw [abs_div, Nat.abs_cast]
      exact div_le_self (abs_nonneg _) (by exact_mod_cast positive)
    refine ⟨.finite (binary64.nearest (value / count)), ?_, nofun⟩
    rw [PyNumber.divNat, if_neg positive.ne', if_neg (smaller.trans_lt fits).not_ge]
  | float value =>
    have nonzero : (count : ℚ) ≠ 0 := by exact_mod_cast positive.ne'
    have numeric : value ≠ .nan := ended.exact_ne_nan
    obtain ⟨quotient, divided, isNumber⟩ : ∃ quotient : PyFloat,
        value.div (.finite count) = .ok quotient ∧ quotient ≠ .nan := by
      cases value with
      | nan => exact absurd rfl numeric
      | finite value => exact ⟨_, if_neg nonzero, nofun⟩
      | infinite negative => exact ⟨_, if_neg nonzero, nofun⟩
    refine ⟨quotient.rounded, ?_, (quotient.rounded_eq_nan).not.mpr isNumber⟩
    rw [PyNumber.divNat, divided]
    rfl

/-- The half of the sum of two tame numbers. -/
theorem Tame.half {left right : PyNumber} (tame : Tame [left, right]) :
    ∃ total float, left.add right = .ok total ∧ total.toFloat = .ok float := by
  have leftNonneg := left.magnitude_nonneg
  have rightNonneg := right.magnitude_nonneg
  have fits := tame.fits
  simp only [List.map_cons, List.map_nil, List.sum_cons, List.sum_nil, add_zero] at fits
  by_cases integers : ∃ first second, left = .int first ∧ right = .int second
  · obtain ⟨first, second, rfl, rfl⟩ := integers
    refine ⟨.int (first + second), _, rfl, PyNumber.toFloat_fits ?_⟩
    have sum := abs_add_le (first : ℚ) second
    simp only [PyNumber.magnitude] at fits ⊢
    push_cast
    linarith [abs_nonneg (first : ℚ), abs_nonneg (second : ℚ)]
  · exact ⟨_, _, PyNumber.add_mixed (by linarith) (by linarith)
      fun first second both => integers ⟨first, second, both⟩, rfl⟩

/-! ### Running totals that are floats -/

/-- `total += value`, where the total is a `float`. -/
def PyFloat.addValue (total : PyFloat) (value : PyValue) : Except PyException PyFloat := do
  let number ← value.operand
  let term ← number.toFloat
  pure (total.add term).rounded

/-- The value is a number that a `float` can hold. -/
def PyValue.Convertible (value : PyValue) : Prop :=
  ∃ number term, value.number? = some number ∧ number.toFloat = .ok term

/-- Nothing else can be added to a `float`. -/
theorem PyFloat.addValue_ok_iff (total : PyFloat) (value : PyValue) :
    (∃ sum, total.addValue value = .ok sum) ↔ value.Convertible := by
  unfold PyFloat.addValue PyValue.operand PyValue.Convertible
  cases found : value.number? with
  | none =>
    constructor
    · rintro ⟨sum, raised⟩
      cases raised
    · rintro ⟨number, term, impossible, -⟩
      cases impossible
  | some number =>
    cases converted : number.toFloat with
    | error exception =>
      constructor
      · rintro ⟨sum, raised⟩
        simp [bind, Except.bind, converted] at raised
      · rintro ⟨other, term, same, fits⟩
        rw [← Option.some.inj same, converted] at fits
        cases fits
    | ok term =>
      constructor
      · intro _
        exact ⟨number, term, rfl, converted⟩
      · intro _
        refine ⟨(total.add term).rounded, ?_⟩
        simp only [bind, Except.bind, converted]
        rfl

end Microgrid.PythonValues
