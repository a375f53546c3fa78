import Mathlib.Algebra.Order.Field.Rat
import Mathlib.Algebra.Order.Field.Power
import Mathlib.Order.Monotone.Basic
import Mathlib.Tactic.Linarith
import Mathlib.Tactic.NormNum
import Mathlib.Tactic.Positivity
import Mathlib.Tactic.Ring
import Worksheet.Decimal.Binary64

namespace Worksheet
namespace Binary64

/-!
The numbers that magnitude patterns stand for.  Between two powers of two the
patterns count the multiples of one power, and the next pattern after the last
of them is the first of the next stretch; so greater patterns stand for greater
numbers.  The pattern of infinity counts here as the power of two that follows
the last finite number.
-/

/-- The number that a binary fraction is. -/
def Dyadic.toRat (value : Dyadic) : ℚ :=
  value.significand * 2 ^ value.exponent

/-- The number that a magnitude pattern stands for. -/
def value (magnitude : Nat) : ℚ :=
  (exact magnitude).toRat

variable {magnitude other step significand : Nat} {number : ℚ}

/-- No double has places below that of the least one. -/
theorem le_exact_exponent (magnitude : Nat) : -1074 ≤ (exact magnitude).exponent := by
  unfold exact
  grind

/-! ## Stretches -/

theorem exact_of_fields {field fraction : Nat} (small : fraction < 2 ^ 52) :
    exact (field * 2 ^ 52 + fraction) =
      if field = 0 then ⟨fraction, -1074⟩ else ⟨fraction + 2 ^ 52, (field : Int) - 1075⟩ := by
  have quotient : (field * 2 ^ 52 + fraction) / Nat.pow 2 52 = field := by
    rw [Nat.pow_eq]
    omega
  have remainder : (field * 2 ^ 52 + fraction) % Nat.pow 2 52 = fraction := by
    rw [Nat.pow_eq]
    omega
  unfold exact
  simp only [quotient, remainder, Nat.pow_eq]
  split
  · next zero => rw [zero, Nat.zero_mul, Nat.zero_add]
  · rfl

/-- Whether a number of steps is admitted in a stretch: the first stretch begins
at zero, every other one at the power of two that it begins with.  The step
after the last is the first of the next stretch. -/
def InStretch (step significand : Nat) : Prop :=
  significand ≤ 2 ^ 53 ∧ (step = 0 ∨ 2 ^ 52 ≤ significand)

/-- In one stretch the numbers are the multiples of one power of two. -/
theorem value_of_inStretch (inStretch : InStretch step significand) :
    value (step * 2 ^ 52 + significand) = significand * 2 ^ ((step : Int) - 1074) := by
  rcases inStretch with ⟨upper, lower⟩
  rcases Nat.lt_or_ge significand (2 ^ 52) with subnormal | normal
  · have first : step = 0 := by omega
    rw [value, exact_of_fields subnormal, if_pos first, first]
    rfl
  rcases Nat.lt_or_ge significand (2 ^ 53) with inside | beyond
  · have fields : step * 2 ^ 52 + significand =
        (step + 1) * 2 ^ 52 + (significand - 2 ^ 52) := by omega
    rw [value, fields, exact_of_fields (by omega), if_neg (Nat.succ_ne_zero step), Dyadic.toRat]
    simp only [Nat.sub_add_cancel normal]
    congr 2
    omega
  · have last : significand = 2 ^ 53 := by omega
    have fields : step * 2 ^ 52 + significand = (step + 2) * 2 ^ 52 + 0 := by omega
    have exponent : ((step + 2 : Nat) : Int) - 1075 = ((step : Int) - 1074) + 1 := by omega
    rw [value, fields, exact_of_fields (by decide), if_neg (Nat.succ_ne_zero _), Dyadic.toRat]
    simp only [exponent, last]
    rw [zpow_add_one₀ two_ne_zero]
    push_cast
    ring

theorem exists_inStretch (magnitude : Nat) : ∃ step significand,
    magnitude = step * 2 ^ 52 + significand ∧ significand < 2 ^ 53 ∧
      InStretch step significand := by
  refine ⟨magnitude / 2 ^ 52 - 1, magnitude - (magnitude / 2 ^ 52 - 1) * 2 ^ 52, ?_, ?_, ?_, ?_⟩
  all_goals omega

/-! ## Order -/

theorem value_lt_succ (magnitude : Nat) : value magnitude < value (magnitude + 1) := by
  rcases exists_inStretch magnitude with ⟨step, significand, rfl, small, inStretch⟩
  have next : InStretch step (significand + 1) :=
    ⟨small, inStretch.2.imp_right Nat.le_succ_of_le⟩
  rw [value_of_inStretch inStretch, Nat.add_assoc, value_of_inStretch next]
  have unit : (0 : ℚ) < 2 ^ ((step : Int) - 1074) := by positivity
  push_cast
  linarith

theorem strictMono_value : StrictMono value :=
  strictMono_nat_of_lt_succ value_lt_succ

@[simp] theorem value_zero : value 0 = 0 := by
  have first : InStretch 0 0 := ⟨by decide, .inl rfl⟩
  simpa using value_of_inStretch first

theorem value_nonneg (magnitude : Nat) : 0 ≤ value magnitude := by
  rw [← value_zero]
  exact strictMono_value.monotone (Nat.zero_le magnitude)

theorem value_infinity : value infinity = 2 ^ (1024 : Int) := by
  have first : infinity = 2046 * 2 ^ 52 + 2 ^ 52 := by decide
  have split : (1024 : Int) = (52 : Nat) + (((2046 : Nat) : Int) - 1074) := by decide
  rw [first, value_of_inStretch ⟨by decide, .inr le_rfl⟩, split, zpow_add₀ two_ne_zero,
    zpow_natCast]
  norm_cast

end Binary64
end Worksheet
