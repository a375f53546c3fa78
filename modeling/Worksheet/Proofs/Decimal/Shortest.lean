import Mathlib.Tactic.FieldSimp
import Worksheet.Decimal.Shortest
import Worksheet.Proofs.Decimal.Rounding

namespace Worksheet
namespace Decimal

/-!
Shortest decimals.  The decimal that is chosen for a magnitude reads back as this
magnitude: a neighbour is taken only if it does, the exact expansion does, and
zeros dropped at the end do not change the number.
-/

variable {tie : Tie} {magnitude numerator denominator : Nat} {exponent : Int} {decimal : Decimal}

theorem toRat_dropZeros (decimal : Decimal) : (dropZeros decimal).toRat = decimal.toRat := by
  fun_induction dropZeros decimal with
  | case1 decimal ends ih =>
    have tenfold : (decimal.significand : ℚ) = (decimal.significand / 10 : Nat) * 10 := by
      exact_mod_cast (Nat.div_mul_cancel (Nat.dvd_of_mod_eq_zero ends.2)).symm
    rw [ih, toRat, toRat, tenfold]
    simp only
    rw [zpow_add_one₀ (by norm_num)]
    ring
  | case2 decimal _ => rfl

theorem toRat_ofDyadic (binary : Binary64.Dyadic) : (ofDyadic binary).toRat = binary.toRat := by
  have halves : (10 : ℚ) ^ (-binary.exponent).toNat =
      2 ^ (-binary.exponent).toNat * 5 ^ (-binary.exponent).toNat := by
    rw [← mul_pow]
    norm_num
  rw [Binary64.Dyadic.toRat_eq_div, toRat, ofDyadic, Binary64.Dyadic.denominator]
  simp only [Nat.pow_eq]
  rw [zpow_neg, zpow_natCast, halves]
  push_cast
  field_simp

theorem magnitude_of_neighbour?
    (found : neighbour? tie magnitude numerator denominator exponent = some decimal) :
    decimal.magnitude = magnitude := by
  unfold neighbour? at found
  simp only at found
  split at found
  · next lower =>
    split at found
    · next upper =>
      have either (choice : Bool) (first second : Decimal)
          (firstReads : first.magnitude = magnitude) (secondReads : second.magnitude = magnitude) :
          (if choice then first else second).magnitude = magnitude := by
        cases choice
        · exact secondReads
        · exact firstReads
      rw [← Option.some.inj found]
      exact either _ _ _ upper lower
    · rw [← Option.some.inj found]
      exact lower
  · split at found
    · next upper =>
      rw [← Option.some.inj found]
      exact upper
    · cases found

/-- The shortest decimal of a magnitude reads back as this magnitude. -/
theorem magnitude_shortest (tie : Tie) (bounded : magnitude ≤ Binary64.infinity) :
    (shortest tie magnitude).magnitude = magnitude := by
  unfold shortest
  simp only
  rw [magnitude_eq_of_toRat_eq (toRat_dropZeros _)]
  cases found : (List.range 17).findSome? fun (digits : Nat) =>
      neighbour? tie magnitude (Binary64.exact magnitude).numerator
        (Binary64.exact magnitude).denominator
        (leadingExponent (Binary64.exact magnitude).numerator
          (Binary64.exact magnitude).denominator - digits) with
  | some decimal =>
    rcases List.exists_of_findSome?_eq_some found with ⟨digits, _, near⟩
    exact magnitude_of_neighbour? near
  | none => exact magnitude_eq_of_toRat_eq_value bounded (toRat_ofDyadic _)

/-- The shortest decimal of a positive magnitude is not zero. -/
theorem shortest_pos (tie : Tie) (bounded : magnitude ≤ Binary64.infinity)
    (positive : 0 < magnitude) : 0 < (shortest tie magnitude).significand := by
  by_contra zero
  have none : (shortest tie magnitude).significand = 0 := by omega
  have reads := magnitude_shortest tie bounded
  rw [Decimal.magnitude] at reads
  simp only [none, if_true] at reads
  exact positive.ne reads

end Decimal
end Worksheet
