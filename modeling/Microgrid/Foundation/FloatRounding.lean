import Mathlib.Algebra.Order.Ring.Abs
import Mathlib.Algebra.Order.Round
import Mathlib.Data.Int.Log
import Mathlib.Data.Rat.Floor
import Mathlib.Tactic.FieldSimp
import Mathlib.Tactic.Linarith
import Mathlib.Tactic.NormNum

/-!
# Rounding to floating-point numbers

A binary format holds the integers up to a power of two, the significands, times a power of two
that does not fall below a least one. A rational is rounded to the nearest of these numbers, and
of two equally near ones to the one with the even significand. There is no largest exponent here;
whoever uses a format with one says what overflow does.

Everything follows from one fact: no number of the format is nearer than the rounded one. So
rounding fixes the numbers of the format and is monotone, also where the exponent changes, and it
errs by no more than the distance to any number of the format that is at hand, such as zero or a
summand.
-/

namespace Microgrid.FloatRounding

/-! ### The nearest integer -/

/-- The nearest integer, and of two the even one. -/
def roundEven (x : ℚ) : ℤ :=
  if x - ⌊x⌋ < 1 / 2 ∨ x - ⌊x⌋ = 1 / 2 ∧ ⌊x⌋ % 2 = 0 then ⌊x⌋ else ⌊x⌋ + 1

/-- It is half a unit away at most. -/
theorem roundEven_near (x : ℚ) : |roundEven x - x| ≤ 1 / 2 := by
  have below : (⌊x⌋ : ℚ) ≤ x := Int.floor_le _
  have above : x < ⌊x⌋ + 1 := Int.lt_floor_add_one _
  rw [roundEven]
  split
  · next down =>
    rw [abs_le]
    constructor <;> rcases down with less | ⟨half, -⟩ <;> linarith
  · next up =>
    have atLeastHalf : 1 / 2 ≤ x - ⌊x⌋ := not_lt.mp fun less => up (.inl less)
    push_cast
    rw [abs_le]
    constructor <;> linarith

/-- No integer is nearer: another one is a whole unit away from the rounded one. -/
theorem roundEven_nearest (x : ℚ) (other : ℤ) : |roundEven x - x| ≤ |other - x| := by
  have near := roundEven_near x
  by_cases same : other = roundEven x
  · rw [same]
  · have unit : (1 : ℚ) ≤ |(other : ℚ) - roundEven x| := by
      exact_mod_cast Int.one_le_abs (sub_ne_zero.mpr same)
    have total := abs_sub_le (other : ℚ) x (roundEven x)
    rw [abs_sub_comm x] at total
    linarith

/-- An integer is its own nearest. -/
theorem roundEven_intCast (value : ℤ) : roundEven value = value := by
  rw [roundEven, Int.floor_intCast, sub_self, if_pos (.inl (by norm_num))]

/-- A bound on the number that is an integer is one on the nearest integer. -/
theorem abs_roundEven_le {x : ℚ} {bound : ℤ} (within : |x| ≤ bound) : |roundEven x| ≤ bound := by
  have near := roundEven_near x
  have size := abs_sub_abs_le_abs_sub (roundEven x : ℚ) x
  have less : |(roundEven x : ℚ)| < bound + 1 := by linarith
  exact Int.lt_add_one_iff.mp (by exact_mod_cast less)

/-! ### A format -/

/-- The number of places of a significand, and the least exponent. -/
structure Format where
  precision : ℕ
  minExponent : ℤ
  places : 0 < precision

/-- Double precision, but for the largest exponent. -/
def binary64 : Format := ⟨53, -1074, by decide⟩

namespace Format

variable (format : Format)

/-- The number is a significand times a power of two. -/
def Holds (x : ℚ) : Prop := ∃ significand exponent : ℤ,
  |significand| ≤ 2 ^ format.precision ∧ format.minExponent ≤ exponent ∧
    x = significand * 2 ^ exponent

/-- The exponent of the last place, where the first is that of the leading digit. -/
def lastExponent (x : ℚ) : ℤ := max (Int.log 2 |x| + 1 - format.precision) format.minExponent

/-- The value of the last place. -/
def lastPlace (x : ℚ) : ℚ := 2 ^ format.lastExponent x

/-- The number of the format that is nearest. -/
def nearest (x : ℚ) : ℚ := roundEven (x / format.lastPlace x) * format.lastPlace x

theorem lastPlace_pos (x : ℚ) : 0 < format.lastPlace x := zpow_pos two_pos _

/-- No multiple of the last place is nearer than the rounded number. -/
theorem nearest_multiple (x : ℚ) (multiple : ℤ) :
    |format.nearest x - x| ≤ |multiple * format.lastPlace x - x| := by
  have positive := format.lastPlace_pos x
  have scaled (value : ℤ) : |value * format.lastPlace x - x| =
      |value - x / format.lastPlace x| * format.lastPlace x := by
    rw [← abs_of_pos positive, ← abs_mul, abs_of_pos positive, sub_mul,
      div_mul_cancel₀ _ positive.ne']
  rw [nearest, scaled, scaled]
  exact mul_le_mul_of_nonneg_right (roundEven_nearest _ _) positive.le

/-- The leading digit of a number other than zero is a multiple of the last place unless the
exponent is the least one. -/
theorem leading_multiple {x : ℚ} (above : format.minExponent < format.lastExponent x) :
    (2 : ℚ) ^ Int.log 2 |x| = (2 ^ (format.precision - 1) : ℤ) * format.lastPlace x := by
  have places := format.places
  have exponent : format.lastExponent x = Int.log 2 |x| + 1 - format.precision := by
    rw [lastExponent] at above ⊢
    omega
  rw [lastPlace, exponent]
  push_cast
  rw [← zpow_natCast, ← zpow_add₀ two_ne_zero]
  congr 1
  omega

/-- No number of the format is nearer than the rounded one.

Multiples of the last place are not, and the others lie below the leading digit, which is such a
multiple. -/
theorem nearest_closest {other : ℚ} (held : format.Holds other) (x : ℚ) :
    |format.nearest x - x| ≤ |other - x| := by
  obtain ⟨significand, exponent, within, least, rfl⟩ := held
  by_cases coarse : format.lastExponent x ≤ exponent
  · have multiple : (significand : ℚ) * 2 ^ exponent =
        (significand * 2 ^ (exponent - format.lastExponent x).toNat : ℤ) * format.lastPlace x := by
      push_cast
      rw [lastPlace, mul_assoc, ← zpow_natCast, ← zpow_add₀ two_ne_zero]
      congr 2
      omega
    rw [multiple]
    exact format.nearest_multiple x _
  · have above : format.minExponent < format.lastExponent x := by omega
    have leading := format.leading_multiple above
    by_cases zero : x = 0
    · rw [zero, nearest, zero_div, show roundEven 0 = 0 from roundEven_intCast 0, Int.cast_zero,
        zero_mul, sub_zero, abs_zero]
      exact abs_nonneg _
    · have places := format.places
      have first : (2 : ℚ) ^ Int.log 2 |x| ≤ |x| :=
        Int.zpow_log_le_self one_lt_two (abs_pos.mpr zero)
      have small : |(significand : ℚ) * 2 ^ exponent| ≤ 2 ^ Int.log 2 |x| := by
        have size : |(significand : ℚ)| ≤ 2 ^ (format.precision : ℤ) := by
          rw [zpow_natCast]
          exact_mod_cast within
        have power : (0 : ℚ) < 2 ^ exponent := zpow_pos two_pos _
        rw [abs_mul, abs_of_pos power]
        calc |(significand : ℚ)| * 2 ^ exponent ≤ 2 ^ (format.precision : ℤ) * 2 ^ exponent :=
              mul_le_mul_of_nonneg_right size power.le
          _ = 2 ^ (format.precision + exponent) := (zpow_add₀ two_ne_zero _ _).symm
          _ ≤ 2 ^ Int.log 2 |x| := by
            refine zpow_le_zpow_right₀ one_le_two ?_
            rw [lastExponent] at coarse above
            omega
      have reach := abs_sub_abs_le_abs_sub x ((significand : ℚ) * 2 ^ exponent)
      rw [abs_sub_comm x] at reach
      -- the leading digit has the sign of the number
      obtain ⟨multiple, distance⟩ : ∃ multiple : ℤ,
          |multiple * format.lastPlace x - x| = |x| - 2 ^ Int.log 2 |x| := by
        generalize (2 : ℚ) ^ Int.log 2 |x| = digit at first leading
        rcases le_or_gt 0 x with positive | negative
        · rw [abs_of_nonneg positive] at first
          refine ⟨2 ^ (format.precision - 1), ?_⟩
          rw [← leading, abs_sub_comm, abs_of_nonneg (sub_nonneg.mpr first), abs_of_nonneg positive]
        · rw [abs_of_neg negative] at first
          refine ⟨-2 ^ (format.precision - 1), ?_⟩
          have ahead : 0 ≤ -digit - x := by linarith
          rw [Int.cast_neg, neg_mul, ← leading, abs_of_nonneg ahead, abs_of_neg negative]
          ring
      have nearer := format.nearest_multiple x multiple
      linarith

/-- The rounded number is one of the format. -/
theorem holds_nearest (x : ℚ) : format.Holds (format.nearest x) := by
  have positive := format.lastPlace_pos x
  refine ⟨roundEven (x / format.lastPlace x), format.lastExponent x, ?_, le_max_right _ _, rfl⟩
  refine abs_roundEven_le ?_
  rw [abs_div, abs_of_pos positive, div_le_iff₀ positive, lastPlace]
  push_cast
  rw [← zpow_natCast, ← zpow_add₀ two_ne_zero]
  refine (Int.lt_zpow_succ_log_self one_lt_two |x|).le.trans ?_
  refine zpow_le_zpow_right₀ one_le_two ?_
  rw [lastExponent]
  omega

/-- Rounding changes nothing about the numbers of the format. -/
theorem nearest_of_holds {x : ℚ} (held : format.Holds x) : format.nearest x = x := by
  have none := format.nearest_closest held x
  rw [sub_self, abs_zero] at none
  exact sub_eq_zero.mp (abs_eq_zero.mp (le_antisymm none (abs_nonneg _)))

/-- They are those that rounding leaves alone. -/
theorem holds_iff (x : ℚ) : format.Holds x ↔ format.nearest x = x :=
  ⟨format.nearest_of_holds, fun fixed => fixed ▸ format.holds_nearest x⟩

instance (x : ℚ) : Decidable (format.Holds x) := decidable_of_iff _ (format.holds_iff x).symm

/-- Zero is held. -/
theorem holds_zero : format.Holds 0 :=
  ⟨0, format.minExponent, by simp, le_rfl, by simp⟩

/-- The double of a number that is held is. -/
theorem Holds.double {format : Format} {x : ℚ} (held : format.Holds x) : format.Holds (2 * x) := by
  obtain ⟨significand, exponent, within, least, rfl⟩ := held
  refine ⟨significand, exponent + 1, within, by omega, ?_⟩
  rw [zpow_add_one₀ two_ne_zero]
  ring

@[simp] theorem nearest_zero : format.nearest 0 = 0 := format.nearest_of_holds format.holds_zero

/-- Of two numbers the greater one is nearer only beyond the middle. -/
theorem middle_le {x lower upper : ℚ} (ordered : lower < upper)
    (nearer : |upper - x| ≤ |lower - x|) : lower + upper ≤ 2 * x := by
  have squares := sq_le_sq.mpr nearer
  nlinarith

/-- Rounding is monotone.

If it exchanged two numbers, the lower one would lie beyond the middle of the two places and the
upper one before it, so both would be the middle. -/
theorem nearest_mono {x y : ℚ} (ordered : x ≤ y) : format.nearest x ≤ format.nearest y := by
  by_contra exchanged
  rw [not_le] at exchanged
  have beyond := middle_le exchanged (format.nearest_closest (format.holds_nearest y) x)
  have before := middle_le (neg_lt_neg exchanged) (x := -y) (by
    rw [← neg_add', ← neg_add', abs_neg, abs_neg, ← sub_eq_add_neg, ← sub_eq_add_neg]
    exact format.nearest_closest (format.holds_nearest x) y)
  have same : x = y := by linarith
  rw [same] at exchanged
  exact lt_irrefl _ exchanged

/-- Zero is held, so a number is moved by its own size at most. -/
theorem abs_nearest_le (x : ℚ) : |format.nearest x| ≤ 2 * |x| := by
  have closest := format.nearest_closest format.holds_zero x
  have size := abs_sub_abs_le_abs_sub (format.nearest x) x
  rw [zero_sub, abs_neg] at closest
  linarith

/-- A sum is moved by the size of one summand at most if the other is held. -/
theorem abs_nearest_add_le {x : ℚ} (held : format.Holds x) (y : ℚ) :
    |format.nearest (x + y)| ≤ |x| + 2 * |y| := by
  have closest := format.nearest_closest held (x + y)
  have size := abs_sub_abs_le_abs_sub (format.nearest (x + y)) (x + y)
  have total := abs_add_le x y
  rw [sub_add_cancel_left, abs_neg] at closest
  linarith

/-- Halfway between two numbers of the format, with both operations rounded, one does not leave the
interval. -/
theorem halfway_mem {x y : ℚ} (lower : format.Holds x) (upper : format.Holds y) (ordered : x ≤ y) :
    x ≤ format.nearest (format.nearest (x + y) / 2) ∧
      format.nearest (format.nearest (x + y) / 2) ≤ y := by
  have above : 2 * x ≤ format.nearest (x + y) := by
    rw [← format.nearest_of_holds lower.double]
    exact format.nearest_mono (by linarith)
  have below : format.nearest (x + y) ≤ 2 * y := by
    rw [← format.nearest_of_holds upper.double]
    exact format.nearest_mono (by linarith)
  constructor
  · calc x = format.nearest x := (format.nearest_of_holds lower).symm
      _ ≤ format.nearest (format.nearest (x + y) / 2) := format.nearest_mono (by linarith)
  · calc format.nearest (format.nearest (x + y) / 2) ≤ format.nearest y :=
          format.nearest_mono (by linarith)
      _ = y := format.nearest_of_holds upper

end Format

end Microgrid.FloatRounding
