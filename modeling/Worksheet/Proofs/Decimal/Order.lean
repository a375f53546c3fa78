import Mathlib.Algebra.Order.Floor.Ring
import Mathlib.Data.Rat.Floor
import Worksheet.Proofs.Decimal.Pattern

namespace Worksheet
namespace Binary64

/-!
The order of doubles.  A finite double is unpacked to the significand and the
exponent of its exact value, and these are compared exponent first.  Since
greater patterns have greater exponents or, with equal ones, greater
significands, the order is that of the numbers; infinities lie outside of it on
either side, and what is no number lies nowhere.
-/

open Float.Model Float.Model.UnpackedFloat

variable {number first second lower upper : Float} {negative otherNegative : Bool}
variable {magnitude other : Nat}
variable {x y real : ℚ}

/-! ## Unpacked doubles -/

/-- The sign of a double. -/
def signOf : Bool → Sign
  | true => .negative
  | false => .positive

/-- What the pattern of a double is unpacked to. -/
def unpacked (number : Float) : UnpackedFloat :=
  UnpackedFloat.unpack Format.binary64 number.toBits.toBitVec

theorem ofBitVec_unpackSign (bits : BitVec Format.binary64.numBits) :
    Sign.ofBitVec (unpackSign bits) = signOf (Nat.pow 2 63 ≤ bits.toNat) := by
  have size : bits.toNat < 2 ^ 64 := bits.isLt
  have field : (unpackSign bits).toNat = bits.toNat / 2 ^ 63 := by
    have signField : unpackSign bits = (bits.extractLsb 63 63).cast rfl := rfl
    simp [signField, Nat.shiftRight_eq_div_pow]
    omega
  by_cases large : Nat.pow 2 63 ≤ bits.toNat
  · have one : unpackSign bits = 1#1 := BitVec.eq_of_toNat_eq (by
      rw [Nat.pow_eq] at large
      rw [field]
      change _ = 1
      omega)
    simp [one, signOf, large]
    rfl
  · have zero : unpackSign bits = 0#1 := BitVec.eq_of_toNat_eq (by
      rw [Nat.pow_eq] at large
      rw [field]
      change _ = 0
      omega)
    simp [zero, signOf, large]
    rfl

/-- The fields of a pattern are those of its magnitude. -/
theorem magnitude_fields (bits : BitVec Format.binary64.numBits) :
    (unpackExponent bits).toNat = bits.toNat % Nat.pow 2 63 / 2 ^ 52 ∧
      (unpackMantissa bits).toNat = bits.toNat % Nat.pow 2 63 % 2 ^ 52 := by
  rw [toNat_unpackExponent, toNat_unpackMantissa, Nat.pow_eq]
  omega

theorem finite_congr {sign otherSign : Sign} {significand otherSignificand : Nat}
    {exponent otherExponent : Int} {positive : 0 < significand}
    {otherPositive : 0 < otherSignificand} (signs : sign = otherSign)
    (significands : significand = otherSignificand) (exponents : exponent = otherExponent) :
    UnpackedFloat.finite sign significand exponent positive =
      .finite otherSign otherSignificand otherExponent otherPositive := by
  subst signs significands exponents
  rfl

/-- A finite double is unpacked to zero or to its exact value. -/
theorem unpacked_of_finite (pattern : kind number = .finite negative magnitude) :
    magnitude = 0 ∧ unpacked number = .zero (signOf negative) ∨
      magnitude ≠ 0 ∧ ∃ positive, unpacked number =
        .finite (signOf negative) (exact magnitude).significand (exact magnitude).exponent
          positive := by
  let bits : BitVec Format.binary64.numBits := number.toBits.toBitVec
  rcases fields_of_finite pattern with ⟨signEq, magnitudeEq, bounded⟩
  rcases magnitude_fields bits with ⟨exponentField, mantissaField⟩
  have sign : Sign.ofBitVec (unpackSign bits) = signOf negative := by
    rw [ofBitVec_unpackSign, signEq]
    rfl
  have parts : magnitude =
      (unpackExponent bits).toNat * 2 ^ 52 + (unpackMantissa bits).toNat := by
    rw [exponentField, mantissaField, magnitudeEq]
    exact (Nat.div_add_mod' _ _).symm
  have small : (unpackMantissa bits).toNat < 2 ^ 52 := (unpackMantissa bits).isLt
  have values : exact ((unpackExponent bits).toNat * 2 ^ 52 + (unpackMantissa bits).toNat) = _ :=
    exact_of_fields small
  rw [← parts] at values
  -- The last exponent is that of infinity, which is above every finite pattern.
  have finite : unpackExponent bits ≠ -1#_ := by
    intro same
    have last : (unpackExponent bits).toNat = 2047 :=
      (congrArg BitVec.toNat same).trans toNat_infiniteExponent
    have first : infinity = 2047 * 2 ^ 52 := by decide
    omega
  unfold unpacked
  rcases unpack_cases bits with ⟨exponent, _, _⟩ | ⟨exponent, _, _⟩ |
    ⟨exponent, mantissa, shape⟩ | ⟨exponent, positive, shape⟩ | ⟨_, exponent, positive, shape⟩
  · exact absurd exponent finite
  · exact absurd exponent finite
  · have noExponent : (unpackExponent bits).toNat = 0 := congrArg BitVec.toNat exponent
    have noMantissa : (unpackMantissa bits).toNat = 0 := congrArg BitVec.toNat mantissa
    exact .inl ⟨by omega, shape.trans (congrArg _ sign)⟩
  · have noExponent : (unpackExponent bits).toNat = 0 := congrArg BitVec.toNat exponent
    rw [if_pos noExponent] at values
    have nonzero : magnitude ≠ 0 := by omega
    refine .inr ⟨nonzero, by rw [values]; exact positive, shape.trans ?_⟩
    apply finite_congr sign
    · rw [values]
    · rw [values, noExponent, exponentBias_binary64]
      rfl
  · have someExponent : (unpackExponent bits).toNat ≠ 0 := fun zero =>
      exponent (BitVec.eq_of_toNat_eq zero)
    rw [if_neg someExponent] at values
    have leading := toNat_leadingBit bits
    have nonzero : magnitude ≠ 0 := by omega
    refine .inr ⟨nonzero, by rw [values]; exact Nat.add_pos_right _ (by decide), shape.trans ?_⟩
    apply finite_congr sign
    · rw [values, leading, Nat.add_comm]
    · rw [values, exponentBias_binary64]
      rfl

/-- What is not finite is unpacked to an infinity or to no number. -/
theorem unpacked_of_toRat?_eq_none (none : toRat? number = none) :
    (∃ negative, unpacked number = .infinity (signOf negative)) ∨
      unpacked number = .notANumber := by
  let bits : BitVec Format.binary64.numBits := number.toBits.toBitVec
  have beyond : infinity ≤ number.toBits.toNat % Nat.pow 2 63 := by
    by_contra finite
    have pattern : kind number = .finite (Nat.pow 2 63 ≤ number.toBits.toNat)
        (number.toBits.toNat % Nat.pow 2 63) := if_pos (not_le.mp finite)
    rw [toRat?, pattern] at none
    cases none
  have last : unpackExponent bits = -1#_ := by
    apply BitVec.eq_of_toNat_eq
    rw [toNat_infiniteExponent, (magnitude_fields bits).1]
    have size : number.toBits.toNat % Nat.pow 2 63 < 2 ^ 63 := Nat.mod_lt _ (by decide)
    have first : infinity = 2047 * 2 ^ 52 := by decide
    change number.toBits.toNat % Nat.pow 2 63 / 2 ^ 52 = 2047
    omega
  have notFirst : unpackExponent bits ≠ 0#_ := by
    rw [last]
    decide
  unfold unpacked
  rcases unpack_cases bits with ⟨_, _, shape⟩ | ⟨_, _, shape⟩ | ⟨first, _⟩ | ⟨first, _⟩ |
    ⟨finite, _⟩
  · exact .inl ⟨_, shape.trans (congrArg _ (ofBitVec_unpackSign bits))⟩
  · exact .inr shape
  · exact absurd first notFirst
  · exact absurd first notFirst
  · exact absurd last finite

/-- A double is finite if it is a number. -/
theorem isFinite_iff : number.isFinite = true ↔ ∃ real, toRat? number = some real := by
  change (unpacked number).isFinite = true ↔ _
  cases value : toRat? number with
  | none =>
    refine iff_of_false ?_ fun found => nomatch found.choose_spec
    rcases unpacked_of_toRat?_eq_none value with ⟨_, shape⟩ | shape
    all_goals
      rw [shape]
      exact Bool.false_ne_true
  | some real =>
    refine iff_of_true ?_ ⟨real, rfl⟩
    rcases toRat?_eq_some_iff.mp value with ⟨_, _, pattern, _⟩
    rcases unpacked_of_finite pattern with ⟨_, shape⟩ | ⟨_, _, shape⟩
    all_goals
      rw [shape]
      rfl

/-! ## Ranks -/

/-- How many doubles lie between zero and a double, with the sign of this. -/
def rank (negative : Bool) (magnitude : Nat) : Int :=
  if negative then -magnitude else magnitude

/-- Numbers are in the order of their ranks. -/
theorem signed_lt_iff_rank_lt (negative otherNegative : Bool) (magnitude other : Nat) :
    (if negative then -value magnitude else value magnitude) <
        (if otherNegative then -value other else value other) ↔
      rank negative magnitude < rank otherNegative other := by
  have smaller : value magnitude < value other ↔ magnitude < other := strictMono_value.lt_iff_lt
  have greater : value other < value magnitude ↔ other < magnitude := strictMono_value.lt_iff_lt
  have positive : 0 < value magnitude ↔ 0 < magnitude := by
    rw [← value_zero, strictMono_value.lt_iff_lt]
  have otherPositive : 0 < value other ↔ 0 < other := by
    rw [← value_zero, strictMono_value.lt_iff_lt]
  have nonneg := value_nonneg magnitude
  have otherNonneg := value_nonneg other
  cases negative <;> cases otherNegative <;>
    simp only [rank, Bool.false_eq_true, if_false, if_true]
  · rw [smaller, Nat.cast_lt]
  · refine iff_of_false ?_ (by omega)
    linarith
  · rcases Nat.eq_zero_or_pos magnitude with rfl | nonzero
    · simpa using otherPositive
    · have below := positive.mpr nonzero
      refine iff_of_true ?_ (by omega)
      linarith
  · rw [neg_lt_neg_iff, neg_lt_neg_iff, greater, Nat.cast_lt]

/-! ## Comparison -/

/-- Greater magnitudes have greater exponents or, with equal ones, greater
significands. -/
theorem lex_exact_iff :
    ((exact magnitude).exponent < (exact other).exponent ∨
      (exact magnitude).exponent = (exact other).exponent ∧
        (exact magnitude).significand < (exact other).significand) ↔ magnitude < other := by
  simp only [exact, Nat.pow_eq]
  split <;> split <;> simp only [true_and] <;> omega

theorem compare_exact_eq_lt_iff :
    (compare (exact magnitude).exponent (exact other).exponent).then
      (compare (exact magnitude).significand (exact other).significand) = .lt ↔
        magnitude < other := by
  rw [Ordering.then_eq_lt, Int.compare_eq_lt, Int.compare_eq_eq, Nat.compare_eq_lt, lex_exact_iff]

theorem compare_exact_eq_gt_iff :
    (compare (exact magnitude).exponent (exact other).exponent).then
      (compare (exact magnitude).significand (exact other).significand) = .gt ↔
        other < magnitude := by
  rw [Ordering.then_eq_gt, Int.compare_eq_gt, Int.compare_eq_eq, Nat.compare_eq_gt,
    @eq_comm Int (exact magnitude).exponent]
  exact lex_exact_iff

theorem lt_iff_compare :
    first < second ↔ UnpackedFloat.compare (unpacked first) (unpacked second) = some .lt := by
  change decide (UnpackedFloat.lt (unpacked first) (unpacked second) = true) = true ↔ _
  rw [decide_eq_true_iff]
  exact beq_iff_eq

/-- Finite doubles are in the order of their ranks. -/
theorem lt_iff_rank_lt (finiteFirst : kind first = .finite negative magnitude)
    (finiteSecond : kind second = .finite otherNegative other) :
    first < second ↔ rank negative magnitude < rank otherNegative other := by
  -- Each side is zero or not and has one of two signs: what is left of each of the
  -- sixteen comparisons is one of magnitudes.
  rw [lt_iff_compare]
  rcases unpacked_of_finite finiteFirst with ⟨zero, shape⟩ | ⟨nonzero, positive, shape⟩ <;>
    rcases unpacked_of_finite finiteSecond with
      ⟨otherZero, otherShape⟩ | ⟨otherNonzero, otherPositive, otherShape⟩ <;>
    rw [shape, otherShape] <;> cases negative <;> cases otherNegative <;>
    dsimp only [signOf, UnpackedFloat.compare] <;>
    simp only [rank, Bool.false_eq_true, if_false, if_true, Option.some.injEq,
      Ordering.swap_eq_lt, compare_exact_eq_lt_iff, compare_exact_eq_gt_iff, reduceCtorEq,
      true_iff, false_iff] <;>
    omega

/-- Finite doubles are in the order of the numbers that they are. -/
theorem lt_iff_toRat?_lt (finiteFirst : toRat? first = some x)
    (finiteSecond : toRat? second = some y) : first < second ↔ x < y := by
  rcases toRat?_eq_some_iff.mp finiteFirst with ⟨negative, magnitude, pattern, rfl⟩
  rcases toRat?_eq_some_iff.mp finiteSecond with ⟨otherNegative, other, otherPattern, rfl⟩
  exact (lt_iff_rank_lt pattern otherPattern).trans (signed_lt_iff_rank_lt _ _ _ _).symm

/-- Nothing is above the positive infinity. -/
theorem compare_positiveInfinity_ne (shape : UnpackedFloat) :
    UnpackedFloat.compare (.infinity .positive) shape ≠ some .lt := by
  intro less
  cases shape with
  | infinity sign => cases sign <;> cases less
  | notANumber | zero | finite => cases less

/-- Nothing is below the negative infinity. -/
theorem compare_negativeInfinity_ne (shape : UnpackedFloat) :
    UnpackedFloat.compare shape (.infinity .negative) ≠ some .lt := by
  intro less
  cases shape with
  | infinity sign => cases sign <;> cases less
  | notANumber | zero | finite => cases less

/-- What lies between two doubles is finite. -/
theorem exists_toRat?_of_between (above : lower < number) (below : number < upper) :
    ∃ real, toRat? number = some real := by
  rw [lt_iff_compare] at above below
  cases value : toRat? number with
  | some real => exact ⟨real, rfl⟩
  | none =>
    rcases unpacked_of_toRat?_eq_none value with ⟨negative, shape⟩ | shape
    all_goals rw [shape] at above below
    · cases negative
      · exact absurd below (compare_positiveInfinity_ne _)
      · exact absurd above (compare_negativeInfinity_ne _)
    · cases below

end Binary64
end Worksheet
