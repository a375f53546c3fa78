import Mathlib.Algebra.Group.Even
import Mathlib.Algebra.Order.Group.Abs
import Worksheet.Proofs.Decimal.Magnitude

namespace Worksheet

/-!
Rounding to doubles.  The magnitude that a fraction or a decimal gets is the one
nearest to it, and of two equally near ones that with the even pattern.  There
is only one such magnitude, so what counts is the number and not the way it is
written as a decimal.
-/

namespace Binary64

variable {number : ℚ} {magnitude other rounded numerator denominator : Nat}

/-! ## The nearest magnitude -/

/-- Whether a magnitude is the nearest one to a number, and if another one is
equally near, the one with the even pattern.  Infinity takes part as the number
that follows the last finite one. -/
structure IsNearest (number : ℚ) (magnitude : Nat) : Prop where
  bounded : magnitude ≤ infinity
  nearest : ∀ other ≤ infinity, |number - value magnitude| ≤ |number - value other|
  even : ∀ other ≤ infinity, other ≠ magnitude →
    |number - value other| = |number - value magnitude| → Even magnitude

/-- Of two equally near magnitudes with even patterns, one between them would be
nearer. -/
theorem IsNearest.le (first : IsNearest number magnitude) (second : IsNearest number other) :
    other ≤ magnitude := by
  by_contra less
  have equal := le_antisymm (first.nearest other second.bounded)
    (second.nearest magnitude first.bounded)
  have evenFirst := first.even other second.bounded (by omega) equal.symm
  have evenSecond := second.even magnitude first.bounded (by omega) equal
  have apart : magnitude + 1 < other := by
    rcases evenFirst with ⟨m, rfl⟩
    rcases evenSecond with ⟨n, rfl⟩
    omega
  have left := value_lt_succ magnitude
  have right := strictMono_value apart
  have between := second.bounded
  have middle := first.nearest (magnitude + 1) (by omega)
  rcases abs_eq_abs.mp equal with same | opposite
  · linarith
  · have nearer : |number - value (magnitude + 1)| < number - value magnitude :=
      abs_lt.mpr ⟨by linarith, by linarith⟩
    have distance := le_abs_self (number - value magnitude)
    linarith

theorem IsNearest.unique (first : IsNearest number magnitude) (second : IsNearest number other) :
    magnitude = other :=
  le_antisymm (second.le first) (first.le second)

theorem isNearest_value (bounded : magnitude ≤ infinity) :
    IsNearest (value magnitude) magnitude := by
  refine ⟨bounded, fun other _ => ?_, fun other _ different equal => ?_⟩
  · rw [sub_self, abs_zero]
    exact abs_nonneg _
  · rw [sub_self, abs_zero, abs_eq_zero, sub_eq_zero] at equal
    exact absurd (strictMono_value.injective equal).symm different

theorem isNearest_infinity (beyond : value infinity ≤ number) : IsNearest number infinity := by
  have distance (other : Nat) (bounded : other ≤ infinity) :
      |number - value other| = number - value other :=
    abs_of_nonneg (by linarith [strictMono_value.monotone bounded])
  refine ⟨le_rfl, fun other bounded => ?_, fun _ _ _ _ => by decide⟩
  rw [distance other bounded, distance infinity le_rfl]
  linarith [strictMono_value.monotone bounded]

/-- Between two patterns that follow each other the nearer one is the nearest of
all.  Beyond the last finite one that is infinity. -/
theorem isNearest_of_between (lower : Nat) (above : value lower ≤ number)
    (below : number < value (lower + 1))
    (nearer : rounded = lower ∧ number - value lower ≤ value (lower + 1) - number ∨
      rounded = lower + 1 ∧ value (lower + 1) - number ≤ number - value lower)
    (tie : number - value lower = value (lower + 1) - number → Even rounded) :
    IsNearest number (min rounded infinity) := by
  rcases Nat.lt_or_ge infinity rounded with beyond | finite
  · rw [Nat.min_eq_right beyond.le]
    exact isNearest_infinity (le_trans (strictMono_value.monotone (by omega)) above)
  rw [Nat.min_eq_left finite]
  have left (other : Nat) (less : other ≤ lower) :
      |number - value other| = number - value other :=
    abs_of_nonneg (by linarith [strictMono_value.monotone less])
  have right (other : Nat) (greater : lower + 1 ≤ other) :
      |number - value other| = value other - number := by
    rw [abs_sub_comm]
    exact abs_of_nonneg (by linarith [strictMono_value.monotone greater])
  have least : |number - value rounded| ≤ number - value lower ∧
      |number - value rounded| ≤ value (lower + 1) - number := by
    rcases nearer with ⟨rfl, near⟩ | ⟨rfl, near⟩
    · exact ⟨(left rounded le_rfl).le, (left rounded le_rfl).trans_le near⟩
    · exact ⟨(right (lower + 1) le_rfl).trans_le near, (right (lower + 1) le_rfl).le⟩
  refine ⟨finite, fun other _ => ?_, fun other _ different equal => tie ?_⟩
  · rcases Nat.lt_or_ge lower other with greater | less
    · rw [right other greater]
      linarith [strictMono_value.monotone greater]
    · rw [left other less]
      linarith [strictMono_value.monotone less]
  · rcases nearer with ⟨rfl, near⟩ | ⟨rfl, near⟩
    · rw [left rounded le_rfl] at equal
      rcases Nat.lt_or_ge rounded other with greater | less
      · have further := strictMono_value.monotone greater
        rw [right other greater] at equal
        linarith
      · have further := strictMono_value (Nat.lt_of_le_of_ne less different)
        rw [left other less] at equal
        linarith
    · rw [right (lower + 1) le_rfl] at equal
      rcases Nat.lt_or_ge lower other with greater | less
      · have further := strictMono_value (Nat.lt_of_le_of_ne greater different.symm)
        rw [right other greater] at equal
        linarith
      · have further := strictMono_value.monotone less
        rw [left other less] at equal
        linarith

/-- What is below half of the least positive number is nearest to zero. -/
theorem isNearest_zero (nonneg : 0 ≤ number) (small : number + number < value 1) :
    IsNearest number 0 := by
  have above : value 0 ≤ number := by rwa [value_zero]
  refine isNearest_of_between 0 above (by linarith) (.inl ⟨rfl, ?_⟩) fun _ => Even.zero
  rw [value_zero]
  linarith

/-! ## Fractions -/

theorem zpow_eq_div {base : ℚ} (nonzero : base ≠ 0) (exponent : Int) :
    base ^ exponent = base ^ exponent.toNat / base ^ (-exponent).toNat := by
  rw [eq_div_iff (pow_ne_zero _ nonzero), ← zpow_natCast, ← zpow_natCast, ← zpow_add₀ nonzero]
  congr 1
  omega

/-- A fraction in units of a power of two. -/
theorem scaled_eq_div (numerator denominator : Nat) (exponent : Int) :
    ((numerator * 2 ^ (-exponent).toNat : Nat) : ℚ) / (denominator * 2 ^ exponent.toNat : Nat) =
      (numerator / denominator : ℚ) / 2 ^ exponent := by
  rw [zpow_eq_div two_ne_zero exponent, div_div_eq_mul_div, div_mul_eq_mul_div, div_div]
  push_cast
  rfl

theorem Dyadic.denominator_pos (binary : Dyadic) : 0 < binary.denominator :=
  Nat.pow_pos (by decide)

theorem Dyadic.toRat_eq_div (binary : Dyadic) :
    binary.toRat = binary.numerator / binary.denominator := by
  rw [toRat, zpow_eq_div two_ne_zero, mul_div_assoc', numerator, denominator]
  simp only [Nat.pow_eq]
  push_cast
  rfl

theorem scaled_le_iff (denominatorPos : 0 < denominator) (exponent : Int) :
    denominator * 2 ^ exponent.toNat ≤ numerator * 2 ^ (-exponent).toNat ↔
      (2 : ℚ) ^ exponent ≤ numerator / denominator := by
  have scaledPos : (0 : ℚ) < (denominator * 2 ^ exponent.toNat : Nat) := by
    exact_mod_cast Nat.mul_pos denominatorPos (Nat.two_pow_pos _)
  have unitPos : (0 : ℚ) < 2 ^ exponent := zpow_pos two_pos exponent
  rw [← one_le_div unitPos, ← scaled_eq_div, one_le_div scaledPos, Nat.cast_le]

theorem log2_bounds (positive : 0 < numerator) :
    (2 : ℚ) ^ (numerator.log2 : Int) ≤ numerator ∧
      (numerator : ℚ) < 2 ^ ((numerator.log2 : Int) + 1) := by
  rw [← Nat.cast_succ, zpow_natCast, zpow_natCast]
  exact ⟨by exact_mod_cast Nat.log2_self_le positive.ne', by exact_mod_cast Nat.lt_log2_self⟩

theorem floorLog2_bounds (numeratorPos : 0 < numerator) (denominatorPos : 0 < denominator) :
    (2 : ℚ) ^ floorLog2 numerator denominator ≤ numerator / denominator ∧
      (numerator / denominator : ℚ) < 2 ^ (floorLog2 numerator denominator + 1) := by
  rcases log2_bounds numeratorPos with ⟨numeratorLower, numeratorUpper⟩
  rcases log2_bounds denominatorPos with ⟨denominatorLower, denominatorUpper⟩
  have positive : (0 : ℚ) < denominator := by exact_mod_cast denominatorPos
  let guess : Int := (numerator.log2 : Int) - denominator.log2
  have upper : (numerator / denominator : ℚ) < 2 ^ (guess + 1) := by
    rw [div_lt_iff₀ positive]
    calc
      (numerator : ℚ) < 2 ^ ((numerator.log2 : Int) + 1) := numeratorUpper
      _ = 2 ^ (guess + 1) * 2 ^ (denominator.log2 : Int) := by
        rw [← zpow_add₀ two_ne_zero]
        congr 1
        omega
      _ ≤ 2 ^ (guess + 1) * denominator :=
        mul_le_mul_of_nonneg_left denominatorLower (zpow_nonneg two_pos.le _)
  have lower : (2 : ℚ) ^ (guess - 1) ≤ numerator / denominator := by
    rw [le_div_iff₀ positive]
    calc
      (2 : ℚ) ^ (guess - 1) * denominator ≤
          2 ^ (guess - 1) * 2 ^ ((denominator.log2 : Int) + 1) :=
        mul_le_mul_of_nonneg_left denominatorUpper.le (zpow_nonneg two_pos.le _)
      _ = 2 ^ (numerator.log2 : Int) := by
        rw [← zpow_add₀ two_ne_zero]
        congr 1
        omega
      _ ≤ numerator := numeratorLower
  unfold floorLog2
  simp only [Nat.pow_eq]
  split
  · next exact => exact ⟨(scaled_le_iff denominatorPos guess).mp exact, upper⟩
  · next less =>
    refine ⟨lower, ?_⟩
    rw [Int.sub_add_cancel]
    exact not_le.mp (mt (scaled_le_iff denominatorPos guess).mpr less)

/-- A quotient is rounded to the nearer one of the two integers around it, and
from the middle between them to the even one. -/
theorem roundToEven_near (numerator : Nat) (denominatorPos : 0 < denominator) :
    ∃ part : ℚ, (numerator / denominator : ℚ) = (numerator / denominator : Nat) + part ∧
      0 ≤ part ∧ part < 1 ∧
      (roundToEven numerator denominator = numerator / denominator ∧ part ≤ 1 - part ∨
        roundToEven numerator denominator = numerator / denominator + 1 ∧ 1 - part ≤ part) ∧
      (part = 1 - part → Even (roundToEven numerator denominator)) := by
  have positive : (0 : ℚ) < denominator := by exact_mod_cast denominatorPos
  have division : (numerator : ℚ) =
      denominator * (numerator / denominator : Nat) + (numerator % denominator : Nat) := by
    exact_mod_cast (Nat.div_add_mod numerator denominator).symm
  have proper : ((numerator % denominator : Nat) : ℚ) < denominator := by
    exact_mod_cast Nat.mod_lt numerator denominatorPos
  have twice (part : ℚ) : part = 1 - part ↔ 2 * part = 1 := by
    constructor <;> intro <;> linarith
  have double : 2 * ((numerator % denominator : Nat) / denominator : ℚ) =
      (2 * (numerator % denominator) : Nat) / denominator := by
    push_cast
    ring
  have atMost (less : 2 * (numerator % denominator) ≤ denominator) :
      ((numerator % denominator : Nat) / denominator : ℚ) ≤
        1 - (numerator % denominator : Nat) / denominator := by
    have half := (div_le_one positive).mpr (Nat.cast_le.mpr less)
    linarith
  have atLeast (greater : denominator ≤ 2 * (numerator % denominator)) :
      1 - ((numerator % denominator : Nat) / denominator : ℚ) ≤
        (numerator % denominator : Nat) / denominator := by
    have half := (one_le_div positive).mpr (Nat.cast_le.mpr greater)
    linarith
  refine ⟨(numerator % denominator : Nat) / denominator, ?_, by positivity,
    (div_lt_one positive).mpr proper, ?_, fun tie => ?_⟩
  · rw [div_eq_iff positive.ne', add_mul, div_mul_cancel₀ _ positive.ne', mul_comm]
    exact division
  · unfold roundToEven
    simp only
    split
    · next less => exact .inl ⟨rfl, atMost less.le⟩
    · split
      · next greater => exact .inr ⟨rfl, atLeast greater.le⟩
      · next notLess notGreater =>
        rcases Nat.mod_two_eq_zero_or_one (numerator / denominator) with even | odd
        · exact .inl ⟨by rw [even, Nat.add_zero], atMost (not_lt.mp notGreater)⟩
        · exact .inr ⟨by rw [odd], atLeast (not_lt.mp notLess)⟩
  · rw [twice, double, div_eq_one_iff_eq positive.ne', Nat.cast_inj] at tie
    unfold roundToEven
    simp only [tie, lt_irrefl, if_false, Nat.even_iff]
    omega

/-- In units of the last place that a double of this size has, a number has at
most 53 bits before the point, and at least that many above the first stretch. -/
theorem quotient_bounds {log : Int} {quotient : Nat} {part : ℚ} (floor : 2 ^ log ≤ number)
    (ceil : number < 2 ^ (log + 1)) (nonneg : 0 ≤ part) (proper : part < 1)
    (parts : number = (quotient + part) * 2 ^ max (log - 52) (-1074)) :
    quotient < 2 ^ 53 ∧ ((max (log - 52) (-1074) + 1074).toNat = 0 ∨ 2 ^ 52 ≤ quotient) := by
  generalize unit : max (log - 52) (-1074) = exponent at parts ⊢
  have unitPos : (0 : ℚ) < 2 ^ exponent := zpow_pos two_pos exponent
  constructor
  · have less : (quotient : ℚ) * 2 ^ exponent < (2 ^ 53 : Nat) * 2 ^ exponent :=
      calc
        (quotient : ℚ) * 2 ^ exponent ≤ number := by
          rw [parts]
          exact mul_le_mul_of_nonneg_right (by linarith) unitPos.le
        _ < 2 ^ (log + 1) := ceil
        _ ≤ 2 ^ ((53 : Nat) + exponent) := zpow_le_zpow_right₀ one_le_two (by omega)
        _ = (2 ^ 53 : Nat) * 2 ^ exponent := by
          rw [zpow_add₀ two_ne_zero, zpow_natCast, Nat.cast_pow, Nat.cast_ofNat]
    exact_mod_cast lt_of_mul_lt_mul_right less unitPos.le
  · by_cases subnormal : exponent = -1074
    · exact .inl (by omega)
    have normal : log = (52 : Nat) + exponent := by omega
    have less : ((2 ^ 52 : Nat) : ℚ) * 2 ^ exponent < (quotient + 1 : Nat) * 2 ^ exponent :=
      calc
        ((2 ^ 52 : Nat) : ℚ) * 2 ^ exponent = 2 ^ log := by
          rw [normal, zpow_add₀ two_ne_zero, zpow_natCast, Nat.cast_pow, Nat.cast_ofNat]
        _ ≤ number := floor
        _ < (quotient + 1 : Nat) * 2 ^ exponent := by
          rw [parts, Nat.cast_succ]
          exact mul_lt_mul_of_pos_right (by linarith) unitPos
    exact .inr (Nat.lt_succ_iff.mp (by exact_mod_cast lt_of_mul_lt_mul_right less unitPos.le))

/-- Rounding the units of a stretch rounds to the nearest pattern.  The step from
the last unit leads to the next stretch. -/
theorem isNearest_of_units {step quotient : Nat} {part : ℚ} (small : quotient < 2 ^ 53)
    (large : step = 0 ∨ 2 ^ 52 ≤ quotient) (nonneg : 0 ≤ part) (proper : part < 1)
    (parts : number = (quotient + part) * 2 ^ ((step : Int) - 1074))
    (near : rounded = quotient ∧ part ≤ 1 - part ∨ rounded = quotient + 1 ∧ 1 - part ≤ part)
    (tie : part = 1 - part → Even rounded) :
    IsNearest number (min (step * 2 ^ 52 + rounded) infinity) := by
  have unitPos : (0 : ℚ) < 2 ^ ((step : Int) - 1074) := zpow_pos two_pos _
  have below : number - value (step * 2 ^ 52 + quotient) = part * 2 ^ ((step : Int) - 1074) := by
    rw [parts, value_of_inStretch ⟨small.le, large⟩]
    ring
  have above : value (step * 2 ^ 52 + quotient + 1) - number =
      (1 - part) * 2 ^ ((step : Int) - 1074) := by
    rw [parts, Nat.add_assoc, value_of_inStretch ⟨small, large.imp_right Nat.le_succ_of_le⟩]
    push_cast
    ring
  have lowerPos := mul_nonneg nonneg unitPos.le
  have upperPos := mul_pos (sub_pos.mpr proper) unitPos
  refine isNearest_of_between (step * 2 ^ 52 + quotient) (by linarith) (by linarith) ?_
    fun middle => ?_
  · rw [below, above]
    refine near.imp (fun down => ⟨by rw [down.1], ?_⟩) fun up => ⟨by rw [up.1, Nat.add_assoc], ?_⟩
    · exact mul_le_mul_of_nonneg_right down.2 unitPos.le
    · exact mul_le_mul_of_nonneg_right up.2 unitPos.le
  · rw [below, above] at middle
    have evenStep : Even (step * 2 ^ 52) := (Nat.even_pow.mpr ⟨even_two, by decide⟩).mul_left step
    exact evenStep.add (tie (mul_right_cancel₀ unitPos.ne' middle))

/-- The pattern that a fraction is given is the nearest one. -/
theorem isNearest_nearest (denominatorPos : 0 < denominator) :
    IsNearest (numerator / denominator : ℚ) (nearest numerator denominator) := by
  rcases Nat.eq_zero_or_pos numerator with rfl | numeratorPos
  · rw [nearest, if_pos rfl, Nat.cast_zero, zero_div, ← value_zero]
    exact isNearest_value (Nat.zero_le _)
  rcases floorLog2_bounds numeratorPos denominatorPos with ⟨floor, ceil⟩
  let exponent : Int := max (floorLog2 numerator denominator - 52) (-1074)
  have scaledPos : 0 < denominator * 2 ^ exponent.toNat :=
    Nat.mul_pos denominatorPos (Nat.two_pow_pos _)
  rcases roundToEven_near (numerator * 2 ^ (-exponent).toNat) scaledPos with
    ⟨part, parts, nonneg, proper, near, tie⟩
  rw [scaled_eq_div, div_eq_iff (zpow_pos two_pos exponent).ne'] at parts
  rcases quotient_bounds floor ceil nonneg proper parts with ⟨small, large⟩
  have step : ((exponent + 1074).toNat : Int) - 1074 = exponent := by omega
  rw [nearest, if_neg numeratorPos.ne']
  exact isNearest_of_units small large nonneg proper (by rw [step]; exact parts) near tie

end Binary64

/-! ## Decimals -/

namespace Decimal

open Binary64

variable {first second : Decimal}

/-- The number that a decimal is. -/
def toRat (decimal : Decimal) : ℚ :=
  decimal.significand * 10 ^ decimal.exponent

theorem toRat_nonneg (decimal : Decimal) : 0 ≤ decimal.toRat :=
  mul_nonneg (Nat.cast_nonneg _) (zpow_nonneg (by norm_num) _)

theorem two_zpow_le_ten_zpow {exponent : Int} (nonneg : 0 ≤ exponent) :
    (2 : ℚ) ^ (3 * exponent) ≤ 10 ^ exponent := by
  rw [zpow_mul]
  exact zpow_le_zpow_left₀ nonneg (by norm_num) (by norm_num)

/-- What counts in units of 10^401 is beyond the last double. -/
theorem isNearest_infinity_of_exponent {significand : Nat} (positive : 0 < significand)
    {exponent : Int} (large : 400 < exponent) :
    IsNearest (toRat ⟨significand, exponent⟩) infinity := by
  refine isNearest_infinity ?_
  have one : (1 : ℚ) ≤ significand := by exact_mod_cast positive
  calc
    value infinity = 2 ^ (1024 : Int) := value_infinity
    _ ≤ 2 ^ (3 * exponent) := zpow_le_zpow_right₀ one_le_two (by omega)
    _ ≤ 10 ^ exponent := two_zpow_le_ten_zpow (by omega)
    _ ≤ significand * 10 ^ exponent := le_mul_of_one_le_left (zpow_nonneg (by norm_num) _) one

/-- What ends before the place of 10^-400 is below half of the least double. -/
theorem isNearest_zero_of_exponent {significand : Nat} (positive : 0 < significand)
    {exponent : Int} (small : exponent + significand.log2 + 1 < -400) :
    IsNearest (toRat ⟨significand, exponent⟩) 0 := by
  let places : Int := -(significand.log2 + 1 + exponent)
  have below : toRat ⟨significand, exponent⟩ ≤ 2 ^ (-1076 : Int) :=
    calc
      (significand : ℚ) * 10 ^ exponent
        ≤ 2 ^ ((significand.log2 : Int) + 1) * 10 ^ exponent :=
          mul_le_mul_of_nonneg_right (log2_bounds positive).2.le (zpow_nonneg (by norm_num) _)
      _ ≤ 10 ^ ((significand.log2 : Int) + 1) * 10 ^ exponent := by
          refine mul_le_mul_of_nonneg_right ?_ (zpow_nonneg (by norm_num) _)
          exact zpow_le_zpow_left₀ (by omega) two_pos.le (by norm_num)
      _ = (10 ^ places)⁻¹ := by
          rw [← zpow_add₀ (by norm_num), ← zpow_neg, neg_neg]
      _ ≤ (2 ^ (3 * places))⁻¹ :=
          inv_anti₀ (zpow_pos two_pos _) (two_zpow_le_ten_zpow (by omega))
      _ ≤ 2 ^ (-1076 : Int) := by
          rw [← zpow_neg]
          exact zpow_le_zpow_right₀ one_le_two (by omega)
  have least : value 1 = 2 ^ (-1076 : Int) * 2 ^ (2 : Int) := by
    have first : InStretch 0 1 := ⟨by decide, .inl rfl⟩
    rw [← zpow_add₀ two_ne_zero]
    simpa using value_of_inStretch first
  have unitPos : (0 : ℚ) < 2 ^ (-1076 : Int) := zpow_pos two_pos _
  refine isNearest_zero (toRat_nonneg _) ?_
  rw [least]
  linarith

/-- The magnitude of a decimal is the one nearest to it. -/
theorem isNearest_magnitude (decimal : Decimal) : IsNearest decimal.toRat decimal.magnitude := by
  rcases decimal with ⟨significand, exponent⟩
  unfold magnitude
  simp only
  split
  · next zero =>
    rw [toRat, zero, Nat.cast_zero, zero_mul, ← value_zero]
    exact isNearest_value (Nat.zero_le _)
  next nonzero =>
  have positive : 0 < significand := Nat.pos_of_ne_zero nonzero
  split
  · next large => exact isNearest_infinity_of_exponent positive large
  split
  · next small => exact isNearest_zero_of_exponent positive small
  · have fraction : toRat ⟨significand, exponent⟩ =
        (significand * Nat.pow 10 exponent.toNat : Nat) / (Nat.pow 10 (-exponent).toNat : Nat) := by
      rw [toRat, zpow_eq_div (by norm_num), mul_div_assoc']
      simp only [Nat.pow_eq]
      push_cast
      rfl
    rw [fraction]
    exact isNearest_nearest (Nat.pow_pos (by decide))

/-- Decimals that are the same number have the same magnitude. -/
theorem magnitude_eq_of_toRat_eq (same : first.toRat = second.toRat) :
    first.magnitude = second.magnitude := by
  have nearest := isNearest_magnitude second
  rw [← same] at nearest
  exact (isNearest_magnitude first).unique nearest

/-- A decimal that is exactly the number of a magnitude has that magnitude. -/
theorem magnitude_eq_of_toRat_eq_value {decimal : Decimal} {magnitude : Nat}
    (bounded : magnitude ≤ infinity) (same : decimal.toRat = value magnitude) :
    decimal.magnitude = magnitude := by
  have nearest := isNearest_magnitude decimal
  rw [same] at nearest
  exact nearest.unique (isNearest_value bounded)

end Decimal
end Worksheet
