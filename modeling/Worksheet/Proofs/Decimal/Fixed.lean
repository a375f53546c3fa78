import Mathlib.Algebra.Order.Floor.Semifield
import Mathlib.Data.Rat.Floor
import Mathlib.Tactic.FieldSimp
import Worksheet.Number
import Worksheet.Proofs.Decimal.Pattern
import Worksheet.Proofs.Decimal.Rounding
import Worksheet.Proofs.Numeral

namespace Worksheet

/-!
Fixed places.  The digits that are kept spell the number of whole units in the
last place, and the digit behind them is at least five if at least half a unit
remains.  Adding one to the digits adds one to the number that they spell.
-/

namespace Decimal

open Numeral (digit ofNat padded)

variable {numerator denominator remainder places more : Nat}

/-! ## Digits of a number of units -/

/-- The digits of a number of units in the last of so many places, with at least
one digit before these. -/
def unitDigits : Nat → Nat → List Char
  | 0, units => ofNat units
  | places + 1, units => unitDigits places (units / 10) ++ [digit (units % 10)]

theorem unitDigits_eq (places units : Nat) :
    unitDigits places units = ofNat (units / 10 ^ places) ++
      if places = 0 then [] else padded places (units % 10 ^ places) := by
  induction places generalizing units with
  | zero => rw [unitDigits, pow_zero, Nat.div_one, if_pos rfl, List.append_nil]
  | succ places ih =>
    have whole : units / 10 / 10 ^ places = units / 10 ^ (places + 1) := by
      rw [Nat.div_div_eq_div_mul, Nat.pow_succ']
    have earlier : units % 10 ^ (places + 1) / 10 = units / 10 % 10 ^ places := by
      rw [Nat.pow_succ', Nat.mod_mul_right_div_self]
    have last : units % 10 ^ (places + 1) % 10 = units % 10 :=
      Nat.mod_mod_of_dvd units (dvd_pow_self 10 (Nat.succ_ne_zero places))
    rw [unitDigits, ih, whole, if_neg (Nat.succ_ne_zero places), List.append_assoc]
    split
    · next none =>
      subst none
      have small : units % 10 < 10 := Nat.mod_lt _ (by decide)
      rw [Nat.zero_add, pow_one, Numeral.padded_one small, List.nil_append]
    · next some =>
      rw [Numeral.padded_succ (Nat.pos_of_ne_zero some), earlier, last]

/-! ## Long division -/

theorem length_fractionDigits (denominator places remainder : Nat) :
    (fractionDigits denominator places remainder).length = places := by
  induction places generalizing remainder with
  | zero => rfl
  | succ places ih => rw [fractionDigits, List.length_cons, ih]

theorem take_fractionDigits (fewer : places ≤ more) (remainder : Nat) :
    (fractionDigits denominator more remainder).take places =
      fractionDigits denominator places remainder := by
  induction places generalizing more remainder with
  | zero => rfl
  | succ places ih =>
    cases more with
    | zero => exact absurd fewer (Nat.not_succ_le_zero places)
    | succ later =>
      rw [fractionDigits, fractionDigits, List.take_succ_cons, ih (Nat.le_of_succ_le_succ fewer)]

/-- What remains after so many places gives the next digit. -/
theorem fractionDigits_succ (proper : remainder < denominator) (places : Nat) :
    fractionDigits denominator (places + 1) remainder =
      fractionDigits denominator places remainder ++
        [digit (remainder * 10 ^ places % denominator * 10 / denominator)] := by
  induction places generalizing remainder with
  | zero =>
    rw [pow_zero, Nat.mul_one, Nat.mod_eq_of_lt proper]
    rfl
  | succ places ih =>
    have next := Nat.mod_lt (remainder * 10) (Nat.zero_lt_of_lt proper)
    have remains : remainder * 10 % denominator * 10 ^ places % denominator =
        remainder * 10 ^ (places + 1) % denominator := by
      rw [Nat.mod_mul_mod, Nat.mul_assoc, Nat.pow_succ']
    rw [fractionDigits, ih next, remains]
    rfl

theorem getElem?_fractionDigits (proper : remainder < denominator) (fewer : places < more) :
    (fractionDigits denominator more remainder)[places]? =
      some (digit (remainder * 10 ^ places % denominator * 10 / denominator)) := by
  rw [← List.getElem?_take_of_lt (Nat.lt_succ_self places), take_fractionDigits fewer,
    fractionDigits_succ proper, List.getElem?_append_right (by rw [length_fractionDigits]),
    length_fractionDigits, Nat.sub_self]
  rfl

/-- The digits that are kept spell the whole units in the last place. -/
theorem kept_eq_unitDigits (denominatorPos : 0 < denominator) (numerator places : Nat) :
    ofNat (numerator / denominator) ++
        fractionDigits denominator places (numerator % denominator) =
      unitDigits places (numerator * 10 ^ places / denominator) := by
  induction places with
  | zero => rw [fractionDigits, List.append_nil, pow_zero, Nat.mul_one, unitDigits]
  | succ places ih =>
    let units := numerator * 10 ^ places / denominator
    let remains := numerator * 10 ^ places % denominator
    have next : numerator * 10 ^ (places + 1) / denominator =
        units * 10 + remains * 10 / denominator := by
      rw [Nat.pow_succ, ← Nat.mul_assoc]
      conv_lhs => rw [← Nat.div_add_mod (numerator * 10 ^ places) denominator]
      rw [Nat.add_mul, Nat.mul_assoc, Nat.mul_add_div denominatorPos]
    have single : remains * 10 / denominator < 10 := by
      rw [Nat.div_lt_iff_lt_mul denominatorPos, Nat.mul_comm]
      exact Nat.mul_lt_mul_of_pos_left (Nat.mod_lt _ denominatorPos) (by decide)
    have whole : (units * 10 + remains * 10 / denominator) / 10 = units := by
      rw [Nat.mul_comm units, Nat.mul_add_div (by decide), Nat.div_eq_of_lt single, Nat.add_zero]
    have last : (units * 10 + remains * 10 / denominator) % 10 = remains * 10 / denominator := by
      rw [Nat.mul_comm units, Nat.mul_add_mod, Nat.mod_eq_of_lt single]
    rw [fractionDigits_succ (Nat.mod_lt _ denominatorPos), ← List.append_assoc, ih,
      Nat.mod_mul_mod, next, unitDigits, whole, last]

/-! ## Adding one -/

theorem increment_append (digits : List Char) {last : Nat} (small : last < 10) :
    increment (digits ++ [digit last]) =
      if last = 9 then increment digits ++ [digit 0] else digits ++ [digit (last + 1)] := by
  have nine : digit last = '9' ↔ last = 9 := by
    have cases : ∀ n : Fin 10, digit n = '9' ↔ n.val = 9 := by decide
    exact cases ⟨last, small⟩
  unfold increment
  rw [List.reverse_append, List.reverse_singleton, List.singleton_append, addOne]
  simp only [nine, Numeral.digitValue_digit small]
  split
  · rw [List.reverse_cons]
    rfl
  · rw [List.reverse_cons, List.reverse_reverse]

/-- A carry from the last digit adds one to the number before it. -/
theorem increment_last (spell : Nat → List Char) {number : Nat}
    (earlier : increment (spell (number / 10)) = spell (number / 10 + 1)) :
    increment (spell (number / 10) ++ [digit (number % 10)]) =
      spell ((number + 1) / 10) ++ [digit ((number + 1) % 10)] := by
  rw [increment_append _ (Nat.mod_lt _ (by decide)), earlier]
  split
  · next nine =>
    have last : (number + 1) % 10 = 0 := by omega
    have carried : (number + 1) / 10 = number / 10 + 1 := by omega
    rw [last, carried]
  · next less =>
    have last : (number + 1) % 10 = number % 10 + 1 := by omega
    have kept : (number + 1) / 10 = number / 10 := by omega
    rw [last, kept]

theorem increment_ofNat (number : Nat) : increment (ofNat number) = ofNat (number + 1) := by
  fun_induction ofNat number with
  | case1 number small =>
    rw [← List.nil_append [digit number], increment_append [] small]
    split
    · next nine =>
      subst nine
      decide +kernel
    · rw [List.nil_append, Numeral.ofNat_of_lt (by omega)]
  | case2 number large ih =>
    rw [increment_last ofNat ih, ← Numeral.ofNat_of_le (by omega)]

theorem increment_unitDigits (places units : Nat) :
    increment (unitDigits places units) = unitDigits places (units + 1) := by
  induction places generalizing units with
  | zero => exact increment_ofNat units
  | succ places ih => exact increment_last (unitDigits places) (ih _)

/-! ## Rounding -/

/-- A quotient rounded to the nearest integer, a tie to the greater one. -/
def roundHalfUp (numerator denominator : Nat) : Nat :=
  (2 * numerator + denominator) / (2 * denominator)

theorem roundHalfUp_eq (denominatorPos : 0 < denominator) (numerator : Nat) :
    roundHalfUp numerator denominator =
      if denominator ≤ 2 * (numerator % denominator) then numerator / denominator + 1
      else numerator / denominator := by
  have proper := Nat.mod_lt numerator denominatorPos
  have parts : 2 * numerator + denominator = 2 * denominator * (numerator / denominator) +
      (2 * (numerator % denominator) + denominator) := by
    conv_lhs => rw [← Nat.div_add_mod numerator denominator]
    ring
  rw [roundHalfUp, parts, Nat.mul_add_div (by omega)]
  split
  · next half =>
    congr 1
    exact Nat.div_eq_of_lt_le (by omega) (by omega)
  · next less =>
    rw [Nat.add_eq_left]
    exact Nat.div_eq_of_lt (by omega)

theorem roundHalfUp_eq_floor (denominatorPos : 0 < denominator) (numerator : Nat) :
    roundHalfUp numerator denominator = ⌊(numerator / denominator + 1 / 2 : ℚ)⌋₊ := by
  have positive : (denominator : ℚ) ≠ 0 := by exact_mod_cast denominatorPos.ne'
  have sum : (numerator / denominator + 1 / 2 : ℚ) =
      (2 * numerator + denominator : Nat) / (2 * denominator : Nat) := by
    push_cast
    field_simp
  rw [sum, Nat.floor_div_eq_div, roundHalfUp]

theorem five_le_iff {value : Nat} (small : value < 10) : '5' ≤ digit value ↔ 5 ≤ value := by
  have cases : ∀ n : Fin 10, '5' ≤ digit n ↔ 5 ≤ n.val := by decide
  exact cases ⟨value, small⟩

/-- The digit that follows the kept ones is at least five if at least half a unit
remains.  Where the expansion has ended nothing remains. -/
theorem roundedDigits_eq (denominatorPos : 0 < denominator) (bounded : places ≤ exactPlaces)
    (ends : denominator ∣ numerator * 10 ^ exactPlaces) :
    roundedDigits (ofNat (numerator / denominator))
        (fractionDigits denominator exactPlaces (numerator % denominator)) places =
      unitDigits places (roundHalfUp (numerator * 10 ^ places) denominator) := by
  have proper := Nat.mod_lt numerator denominatorPos
  have remaining := Nat.mod_lt (numerator * 10 ^ places) denominatorPos
  have follows : (fractionDigits denominator exactPlaces (numerator % denominator))[places]?.any
      ('5' ≤ ·) = decide (denominator ≤ 2 * (numerator * 10 ^ places % denominator)) := by
    rcases bounded.eq_or_lt with rfl | fewer
    · rw [List.getElem?_eq_none (by rw [length_fractionDigits]), Nat.mod_eq_zero_of_dvd ends]
      exact (decide_eq_false (by omega)).symm
    · have single : numerator * 10 ^ places % denominator * 10 / denominator < 10 := by
        rw [Nat.div_lt_iff_lt_mul denominatorPos]
        omega
      rw [getElem?_fractionDigits proper fewer, Nat.mod_mul_mod, Option.any_some, decide_eq_decide,
        five_le_iff single, Nat.le_div_iff_mul_le denominatorPos]
      omega
  rw [roundedDigits, take_fractionDigits bounded, kept_eq_unitDigits denominatorPos,
    roundHalfUp_eq denominatorPos]
  simp only [follows, decide_eq_true_eq, increment_unitDigits]
  split <;> rfl

/-- A binary fraction whose expansion ends in time is written with the units in
the last place rounded to the nearest integer. -/
theorem fixed_eq {value : Binary64.Dyadic} (bounded : places ≤ exactPlaces)
    (ends : -value.exponent ≤ exactPlaces) :
    let units := roundHalfUp (value.numerator * 10 ^ places) value.denominator
    fixed value places = ofNat (units / 10 ^ places) ++
      if places = 0 then [] else '.' :: padded places (units % 10 ^ places) := by
  intro units
  have denominatorPos := value.denominator_pos
  have whole : value.denominator ∣ value.numerator * 10 ^ exactPlaces := by
    refine Dvd.dvd.mul_left ?_ value.numerator
    calc
      value.denominator = 2 ^ (-value.exponent).toNat := Nat.pow_eq
      _ ∣ 2 ^ exactPlaces := Nat.pow_dvd_pow 2 (by omega)
      _ ∣ 10 ^ exactPlaces := pow_dvd_pow_of_dvd (by decide) exactPlaces
  have digits := roundedDigits_eq denominatorPos bounded whole
  unfold fixed
  simp only [digits]
  change (unitDigits places units).take _ ++ _ = _
  have parts := unitDigits_eq places units
  have small : units % 10 ^ places < 10 ^ places := Nat.mod_lt _ (Nat.pow_pos (by decide))
  have length :
      (if places = 0 then [] else padded places (units % 10 ^ places)).length = places := by
    split
    · next zero => exact zero.symm
    · next some => exact Numeral.length_padded (Nat.pos_of_ne_zero some) small
  have before : (unitDigits places units).length - places =
      (ofNat (units / 10 ^ places)).length := by
    rw [parts, List.length_append, length, Nat.add_sub_cancel]
  rw [before, parts, List.take_left, List.drop_left]
  split <;> rfl

end Decimal

/-! ## Doubles -/

namespace Number

open Binary64

theorem exceedsFixed_iff {magnitude : Nat} :
    exceedsFixed magnitude = true ↔ 10 ^ 21 ≤ value magnitude := by
  have denominatorPos : (0 : ℚ) < (exact magnitude).denominator := by
    exact_mod_cast (exact magnitude).denominator_pos
  rw [exceedsFixed, decide_eq_true_eq, value, Dyadic.toRat_eq_div, le_div_iff₀ denominatorPos,
    Nat.pow_eq]
  exact_mod_cast Iff.rfl

/-- The digits of a magnitude spell the multiple of the last place that is nearest
to it. -/
theorem fixed_exact (magnitude : Nat) {places : Nat} (bounded : places ≤ 1100) :
    let units := ⌊value magnitude * 10 ^ places + 1 / 2⌋₊
    Decimal.fixed (exact magnitude) places = Numeral.ofNat (units / 10 ^ places) ++
      if places = 0 then [] else '.' :: Numeral.padded places (units % 10 ^ places) := by
  intro units
  have nearest : units = Decimal.roundHalfUp ((exact magnitude).numerator * 10 ^ places)
      (exact magnitude).denominator := by
    rw [Decimal.roundHalfUp_eq_floor (exact magnitude).denominator_pos]
    simp only [units]
    rw [value, Dyadic.toRat_eq_div, div_mul_eq_mul_div]
    push_cast
    rfl
  have ends : -(exact magnitude).exponent ≤ Decimal.exactPlaces := by
    have least := le_exact_exponent magnitude
    have places : (Decimal.exactPlaces : Int) = 1100 := rfl
    omega
  rw [nearest]
  exact Decimal.fixed_eq bounded ends

theorem exceedsFixed_of_lt {negative : Bool} {magnitude : Nat}
    (small : |if negative then -value magnitude else value magnitude| < 10 ^ 21) :
    exceedsFixed magnitude = false := by
  rw [abs_signed] at small
  rw [Bool.eq_false_iff, ne_eq, exceedsFixed_iff]
  exact not_le.mpr small

/-- A finite double below 10^21 has a minus before its digits if it is negative. -/
theorem fixedChars_of_lt {number : Float} {negative : Bool} {magnitude : Nat}
    (pattern : kind number = .finite negative magnitude)
    (small : |if negative then -value magnitude else value magnitude| < 10 ^ 21) (places : Nat) :
    fixedChars number places =
      sign ((if negative then -value magnitude else value magnitude) < 0) ++
        Decimal.fixed (exact magnitude) places := by
  have negatives : decide ((if negative then -value magnitude else value magnitude) < 0) =
      (negative && magnitude != 0) := by
    rw [Bool.eq_iff_iff, decide_eq_true_iff, signed_neg_iff, Bool.and_eq_true, bne_iff_ne]
  rw [fixedChars, pattern, negatives]
  simp only [exceedsFixed_of_lt small, Bool.false_eq_true, if_false]

/-- A finite double below 10^21 is written as the multiple of its last place that
is nearest to it, and of two equally near ones as that further from zero. -/
theorem fixed_rounds_half_away {number : Float} {real : ℚ} {places : Nat}
    (finite : toRat? number = some real) (small : |real| < 10 ^ 21) (bounded : places ≤ 1100) :
    let units := ⌊|real| * 10 ^ places + 1 / 2⌋₊
    fixed number places = String.ofList (sign (real < 0) ++
      (Numeral.ofNat (units / 10 ^ places) ++
        if places = 0 then [] else '.' :: Numeral.padded places (units % 10 ^ places))) := by
  intro units
  rcases toRat?_eq_some_iff.mp finite with ⟨negative, magnitude, kind_eq, rfl⟩
  have digits := fixed_exact magnitude bounded
  rw [fixed, fixedChars_of_lt kind_eq small, digits]
  simp only [units, abs_signed]

theorem fixed_rounds_half_away_with_carry :
    toRat? (-999.96875) = some (-31999 / 32) ∧ fixed (-999.96875) 1 = "-1000.0" := by
  have finite : toRat? (-999.96875) = some (-31999 / 32) := by
    have pattern : kind (-999.96875) = .finite true 0x408F3FC000000000 := by decide +kernel
    have parts : exact 0x408F3FC000000000 = ⟨31999 * 2 ^ 38, -43⟩ := by decide +kernel
    refine toRat?_eq_some_iff.mpr ⟨true, _, pattern, ?_⟩
    rw [if_pos rfl, value, parts, Binary64.Dyadic.toRat]
    norm_num
  refine ⟨finite, ?_⟩
  rw [fixed_rounds_half_away finite (by norm_num [abs_div]) (by decide)]
  have units : ⌊|(-31999 / 32 : ℚ)| * 10 ^ 1 + 1 / 2⌋₊ = 10000 := by norm_num [abs_div]
  rw [units]
  decide +kernel

end Number
end Worksheet
