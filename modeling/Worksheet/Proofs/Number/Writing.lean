import Mathlib.Tactic.FieldSimp
import Worksheet.Proofs.Decimal.Pattern
import Worksheet.Proofs.Decimal.Shortest
import Worksheet.Proofs.Number.Reading

namespace Worksheet
namespace Number

/-!
Numbers as results.  Both notations of a decimal are literals of the grammar that
stand for it, so a result is read as a whole, and the double nearest to its
decimal is the one that was written.
-/

open Binary64
open Decimal hiding Literal
open Numeral (value)

variable {digits : List Char} {negative : Bool}

/-! ## Both notations -/

theorem mantissa_point {whole fraction : List Char} (decimal : ∀ c ∈ whole ++ fraction, c.isDigit)
    (nonempty : whole ++ fraction ≠ []) : Mantissa (whole ++ '.' :: fraction)
      (value (whole ++ fraction) / 10 ^ fraction.length) := by
  rw [← value_places]
  exact .pointed (fun c member => decimal c (List.mem_append_left _ member))
    (fun c member => decimal c (List.mem_append_right _ member)) nonempty

theorem mantissa_split (decimal : ∀ c ∈ digits, c.isDigit) (nonempty : digits ≠ []) (count : Nat) :
    Mantissa (digits.take count ++ '.' :: digits.drop count)
      (value digits / 10 ^ (digits.length - count)) := by
  have parts := List.take_append_drop count digits
  have mantissa := mantissa_point (parts.symm ▸ decimal) (parts.symm ▸ nonempty)
  rwa [parts, List.length_drop] at mantissa

theorem isDigit_of_mem_zeros {count : Nat} {c : Char} (member : c ∈ List.replicate count '0') :
    c.isDigit := by
  rw [List.eq_of_mem_replicate member]
  rfl

/-- Zeros between the point and the digits. -/
theorem mantissa_after_zeros (decimal : ∀ c ∈ digits, c.isDigit) (count : Nat) :
    Mantissa ('0' :: '.' :: (List.replicate count '0' ++ digits))
      (value digits / 10 ^ (count + digits.length)) := by
  have front : ['0'] ++ (List.replicate count '0' ++ digits) =
      List.replicate (count + 1) '0' ++ digits := rfl
  have isDigits : ∀ c ∈ ['0'] ++ (List.replicate count '0' ++ digits), c.isDigit := by
    rw [front]
    exact fun c member => (List.mem_append.mp member).elim isDigit_of_mem_zeros (decimal c)
  have mantissa := mantissa_point isDigits (List.cons_ne_nil _ _)
  rw [front, Numeral.value_append, Numeral.value_zeros, Nat.zero_mul, Nat.zero_add,
    List.length_append, List.length_replicate] at mantissa
  exact mantissa

/-- Zeros after the digits. -/
theorem mantissa_before_zeros (decimal : ∀ c ∈ digits, c.isDigit) (nonempty : digits ≠ [])
    (count : Nat) :
    Mantissa (digits ++ List.replicate count '0') (value digits * 10 ^ count) := by
  have isDigits : ∀ c ∈ digits ++ List.replicate count '0', c.isDigit :=
    fun c member => (List.mem_append.mp member).elim (decimal c) isDigit_of_mem_zeros
  have mantissa := Mantissa.whole isDigits (List.append_ne_nil_of_left_ne_nil nonempty _)
  rw [Numeral.value_append, Numeral.value_zeros, Nat.add_zero, List.length_replicate] at mantissa
  push_cast at mantissa
  exact mantissa

/-- Digits with a point before or among them, or filled up with zeros. -/
theorem mantissa_positional (decimal : ∀ c ∈ digits, c.isDigit) (nonempty : digits ≠ [])
    (pointAfter : Int) : Mantissa (positional digits pointAfter [])
      (value digits * 10 ^ (pointAfter - digits.length)) := by
  unfold positional
  split
  · next before =>
    have places :
        pointAfter - digits.length = -(((-pointAfter).toNat + digits.length : Nat) : Int) := by
      omega
    rw [places, zpow_neg, zpow_natCast, ← div_eq_mul_inv]
    exact mantissa_after_zeros decimal _
  · next positive =>
    split
    · next filled =>
      have places :
          pointAfter - digits.length = ((pointAfter.toNat - digits.length : Nat) : Int) := by
        omega
      rw [places, zpow_natCast, List.append_nil]
      exact mantissa_before_zeros decimal nonempty _
    · next inside =>
      have places :
          pointAfter - digits.length = -((digits.length - pointAfter.toNat : Nat) : Int) := by
        omega
      rw [places, zpow_neg, zpow_natCast, ← div_eq_mul_inv]
      exact mantissa_split decimal nonempty pointAfter.toNat

/-- The first digit with a point before the others, if there are any. -/
theorem mantissa_first (decimal : ∀ c ∈ digits, c.isDigit) (nonempty : digits ≠ []) :
    Mantissa (digits.take 1 ++ if digits.length ≤ 1 then [] else '.' :: digits.drop 1)
      (value digits / 10 ^ (digits.length - 1)) := by
  split
  · next single =>
    have exponent : digits.length - 1 = 0 := by omega
    rw [List.append_nil, List.take_of_length_le single, exponent, pow_zero, div_one]
    exact .whole decimal nonempty
  · exact mantissa_split decimal nonempty 1

theorem exponentPart_signed (exponent : Int) :
    ExponentPart ('e' :: (if exponent < 0 then '-' else '+') :: Numeral.ofNat exponent.natAbs)
      exponent := by
  have decimal : ∀ c ∈ Numeral.ofNat exponent.natAbs, c.isDigit :=
    fun _ => Reference.isDigit_of_mem_ofNat
  have nonempty := Reference.ofNat_ne_nil exponent.natAbs
  split
  · next negative =>
    have part := ExponentPart.marked (.inl rfl) .minus decimal nonempty
    rw [if_pos rfl, Numeral.value_ofNat] at part
    have same : -(exponent.natAbs : Int) = exponent := by omega
    rwa [same] at part
  · next nonneg =>
    have part := ExponentPart.marked (.inl rfl) .plus decimal nonempty
    rw [if_neg Bool.false_ne_true, Numeral.value_ofNat] at part
    have same : (exponent.natAbs : Int) = exponent := by omega
    rwa [same] at part

theorem isSign_sign (negative : Bool) : Sign (sign negative) negative := by
  cases negative
  · exact .none
  · exact .minus

/-- The text of a decimal is a literal that stands for it. -/
theorem literal_write (negative : Bool) (decimal : Decimal) :
    Decimal.Literal (sign negative ++ decimal.write layout) negative decimal.toRat := by
  let digits := Numeral.ofNat decimal.significand
  have isDigits : ∀ c ∈ digits, c.isDigit := fun _ => Reference.isDigit_of_mem_ofNat
  have nonempty : digits ≠ [] := Reference.ofNat_ne_nil decimal.significand
  have some := List.length_pos_iff.mpr nonempty
  have number : (value digits : ℚ) = decimal.significand := by rw [Numeral.value_ofNat]
  unfold Decimal.write
  simp only
  split
  · have mantissa :=
      mantissa_positional isDigits nonempty (decimal.exponent + digits.length - 1 + 1)
    have places : decimal.exponent + digits.length - 1 + 1 - digits.length = decimal.exponent := by
      omega
    rw [places, number] at mantissa
    have literal := Decimal.Literal.parts (isSign_sign negative) mantissa .none
    rw [List.append_nil, zpow_zero, mul_one] at literal
    exact literal
  · have literal := Decimal.Literal.parts (isSign_sign negative) (mantissa_first isDigits nonempty)
      (exponentPart_signed (decimal.exponent + digits.length - 1))
    have places : decimal.exponent + digits.length - 1 =
        decimal.exponent + (digits.length - 1 : Nat) := by omega
    have real : (value digits / 10 ^ (digits.length - 1) : ℚ) *
        10 ^ (decimal.exponent + digits.length - 1) = decimal.toRat := by
      rw [number, places, zpow_add₀ (by norm_num), zpow_natCast, toRat]
      field_simp
    rw [real] at literal
    exact literal

/-! ## Results -/

theorem trimStart_of_isLiteral {text : List Char} (isLiteral : IsLiteral text) :
    Text.trimStart text = text := by
  refine Text.dropWhile_eq_self fun c first => ?_
  rcases isLiteral with ⟨negative, value, isLiteral⟩
  cases isLiteral with
  | infinity isSign => cases isSign <;> (cases first; decide)
  | decimal literal =>
    rcases literal with ⟨isSign, isMantissa, _⟩
    cases isSign with
    | plus | minus =>
      cases first
      decide
    | none =>
      rcases isMantissa.first c first with digit | rfl
      · exact Reference.isBlank_of_isDigit digit
      · decide

/-- A literal is read as a whole. -/
theorem read?_of_literal {text : List Char} {real : WithTop ℚ}
    (isLiteral : Literal text negative real) : ∃ magnitude, Rounds real magnitude ∧
      read? text = some (ofMagnitude negative magnitude, []) := by
  have trimmed := trimStart_of_isLiteral ⟨negative, real, isLiteral⟩
  have isLongest : IsLongest (Text.trimStart text) text := by
    rw [trimmed]
    exact ⟨List.prefix_rfl, ⟨negative, real, isLiteral⟩, fun _ begins _ => begins.length_le⟩
  rcases read?_of_isLongest isLongest isLiteral with ⟨magnitude, rounds, read⟩
  rw [trimmed, List.drop_length] at read
  exact ⟨magnitude, rounds, read⟩

theorem read?_of_decimal {text : List Char} {decimal : Decimal}
    (isLiteral : Decimal.Literal text negative decimal.toRat) :
    read? text = some (ofMagnitude negative decimal.magnitude, []) := by
  rcases read?_of_literal (.decimal isLiteral) with ⟨magnitude, rounds, read⟩
  rw [read, rounds.unique (.nearest (isNearest_magnitude decimal))]

/-- A result is read as a whole and gives the number back, save that zero loses its
sign. -/
theorem read?_chars {number : Float} (isNumber : number.isNaN = false) :
    read? (chars number) = some (if number = -0.0 then 0.0 else number, []) := by
  have kindNegativeZero : kind (-0.0) = .finite true 0 := by decide +kernel
  have other (different : kind number ≠ .finite true 0) : number ≠ -0.0 := by
    rintro rfl
    exact different kindNegativeZero
  cases pattern : kind number with
  | notANumber => exact absurd (isNaN_iff.mpr pattern) (Bool.eq_false_iff.mp isNumber)
  | infinite negative =>
    rcases read?_of_literal (.infinity (isSign_sign negative)) with ⟨magnitude, rounds, read⟩
    cases rounds
    simp only [chars, pattern]
    have different : kind number ≠ .finite true 0 := by
      rw [pattern]
      exact Kind.noConfusion
    rw [read, if_neg (other different), ofMagnitude_of_infinite pattern]
  | finite negative magnitude =>
    rcases ofMagnitude_of_finite pattern with ⟨same, bounded⟩
    simp only [chars, pattern]
    split
    · next zero =>
      subst zero
      have mantissa : Mantissa ['0'] (0 : Nat) :=
        .whole (List.all_eq_true.mp rfl) (List.cons_ne_nil _ _)
      have literal : Decimal.Literal ['0'] false (toRat ⟨0, 0⟩) := .parts .none mantissa .none
      have read : read? ['0'] = some (0.0, []) := read?_of_decimal literal
      rw [read]
      cases negative
      · have positiveZero : (0.0 : Float) = number := same
        rw [if_neg (other (by rw [pattern]; exact fun equal => nomatch equal)), positiveZero]
      · have negativeZero : (-0.0 : Float) = number := same
        rw [if_pos negativeZero.symm]
    · next nonzero =>
      have different : kind number ≠ .finite true 0 := by
        rw [pattern]
        rintro ⟨⟩
        exact nonzero rfl
      rw [read?_of_decimal (literal_write negative _), magnitude_shortest _ bounded.le, same,
        if_neg (other different)]

/-- A number that is written as a result is the number that the result counts as,
and nothing of the result is left.  Only zero loses its sign. -/
theorem parse?_text {number : Float} (isNumber : number.isNaN = false) :
    parse? (text number) = some (if number = -0.0 then 0.0 else number) ∧
      (read? (text number).toList).map Prod.snd = some [] := by
  rw [parse?, text, String.toList_ofList, read?_chars isNumber]
  exact ⟨rfl, rfl⟩

theorem parse?_text_of_subnormal : parse? (text (-5e-324)) = some (-5e-324) ∧
    (read? (text (-5e-324)).toList).map Prod.snd = some [] := by
  have isNumber : (-5e-324 : Float).isNaN = false := by decide +kernel
  have different : (-5e-324 : Float) ≠ -0.0 := by decide +kernel
  have reads := parse?_text isNumber
  rwa [if_neg different] at reads

end Number
end Worksheet
