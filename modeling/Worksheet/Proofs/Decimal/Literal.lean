import Mathlib.Tactic.FieldSimp
import Worksheet.Decimal.Literal
import Worksheet.Proofs.Decimal.Rounding
import Worksheet.Proofs.Numeral

namespace Worksheet
namespace Decimal

/-!
The grammar of decimal literals, with the number that each one stands for.  The
reader takes every literal of the grammar and finds its sign and its number.
-/

open Numeral (value)

/-! ## Grammar -/

/-- A sign or nothing, and whether it is a minus. -/
inductive Sign : List Char → Bool → Prop
  | none : Sign [] false
  | plus : Sign ['+'] false
  | minus : Sign ['-'] true

/-- At least one digit, maybe with a point before, among or after the digits, and
the number that these stand for. -/
inductive Mantissa : List Char → ℚ → Prop
  | whole {digits : List Char} (decimal : ∀ c ∈ digits, c.isDigit) (nonempty : digits ≠ []) :
    Mantissa digits (value digits)
  | pointed {whole fraction : List Char} (decimalWhole : ∀ c ∈ whole, c.isDigit)
      (decimalFraction : ∀ c ∈ fraction, c.isDigit) (nonempty : whole ++ fraction ≠ []) :
    Mantissa (whole ++ '.' :: fraction) (value whole + value fraction / 10 ^ fraction.length)

/-- A marker, maybe a sign, and at least one digit, with the exponent that these
stand for, or nothing for the exponent zero. -/
inductive ExponentPart : List Char → Int → Prop
  | none : ExponentPart [] 0
  | marked {marker : Char} {sign digits : List Char} {negative : Bool}
      (isMarker : marker = 'e' ∨ marker = 'E') (isSign : Sign sign negative)
      (decimal : ∀ c ∈ digits, c.isDigit) (nonempty : digits ≠ []) :
    ExponentPart (marker :: (sign ++ digits))
      (if negative then -(value digits : Int) else value digits)

/-- A decimal literal, whether it has a minus, and its number without the sign. -/
inductive Literal : List Char → Bool → ℚ → Prop
  | parts {sign mantissa exponentPart : List Char} {negative : Bool} {number : ℚ} {exponent : Int}
      (isSign : Sign sign negative) (isMantissa : Mantissa mantissa number)
      (isExponent : ExponentPart exponentPart exponent) :
    Literal (sign ++ (mantissa ++ exponentPart)) negative (number * 10 ^ exponent)

variable {text rest digits whole fraction : List Char} {negative : Bool} {number : ℚ}
variable {exponent : Int} {c : Char}

/-! ## Signs -/

theorem Sign.eq_minus (isSign : Sign text negative) : decide (text = ['-']) = negative := by
  cases isSign <;> rfl

theorem exists_sign (text : List Char) : ∃ sign unsigned negative,
    cutSign text = (sign, unsigned) ∧ text = sign ++ unsigned ∧ Sign sign negative := by
  unfold cutSign
  split
  · exact ⟨_, _, _, rfl, rfl, .plus⟩
  · exact ⟨_, _, _, rfl, rfl, .minus⟩
  · exact ⟨_, _, _, rfl, rfl, .none⟩

theorem Sign.cutSign_append (isSign : Sign text negative)
    (unsigned : ∀ c ∈ rest.head?, c ≠ '+' ∧ c ≠ '-') : cutSign (text ++ rest) = (text, rest) := by
  cases isSign with
  | plus | minus => rfl
  | none =>
    cases rest with
    | nil => rfl
    | cons c later =>
      rcases unsigned c rfl with ⟨noPlus, noMinus⟩
      unfold cutSign
      grind

/-! ## Mantissas -/

/-- A mantissa begins with a digit or a point, also where a text follows it. -/
theorem Mantissa.first (mantissa : Mantissa text number) :
    ∀ c ∈ (text ++ rest).head?, c.isDigit ∨ c = '.' := by
  cases mantissa with
  | whole decimal nonempty =>
    rcases List.exists_cons_of_ne_nil nonempty with ⟨c, later, rfl⟩
    rintro _ ⟨⟩
    exact .inl (decimal c List.mem_cons_self)
  | @pointed whole _ decimal =>
    cases whole with
    | nil =>
      rintro _ ⟨⟩
      exact .inr rfl
    | cons c later =>
      rintro _ ⟨⟩
      exact .inl (decimal c List.mem_cons_self)

theorem ne_sign_of_isDigit (digit : c.isDigit) : c ≠ '+' ∧ c ≠ '-' := by
  constructor <;> (rintro rfl; cases digit)

/-- A point among digits divides by a power of ten. -/
theorem value_places (whole fraction : List Char) :
    (value whole + value fraction / 10 ^ fraction.length : ℚ) =
      value (whole ++ fraction) / 10 ^ fraction.length := by
  rw [Numeral.value_append]
  push_cast
  field_simp

theorem Mantissa.unsigned (mantissa : Mantissa text number) :
    ∀ c ∈ (text ++ rest).head?, c ≠ '+' ∧ c ≠ '-' := by
  intro c begins
  rcases mantissa.first c begins with digit | rfl
  · exact ne_sign_of_isDigit digit
  · decide

theorem cutMantissa_digits (decimal : ∀ c ∈ digits, c.isDigit)
    (stops : ∀ c ∈ rest.head?, c.isDigit = false ∧ c ≠ '.') :
    cutMantissa (digits ++ rest) = (digits, [], rest) := by
  have noDigit : ∀ c ∈ rest.head?, c.isDigit = false := fun c first => (stops c first).1
  rw [cutMantissa, List.takeWhile_append_of_pos decimal, List.dropWhile_append_of_pos decimal,
    Text.takeWhile_eq_nil noDigit, Text.dropWhile_eq_self noDigit, List.append_nil]
  unfold cutFraction
  grind

/-- After a point all digits that follow belong to the mantissa. -/
theorem cutMantissa_pointed (decimalWhole : ∀ c ∈ whole, c.isDigit)
    (decimalFraction : ∀ c ∈ fraction, c.isDigit) (rest : List Char) :
    cutMantissa (whole ++ '.' :: (fraction ++ rest)) =
      (whole, '.' :: (fraction ++ rest.takeWhile Char.isDigit), rest.dropWhile Char.isDigit) := by
  rw [cutMantissa, Text.takeWhile_append_cons rfl, Text.dropWhile_append_cons rfl,
    List.takeWhile_eq_self_iff.mpr decimalWhole, List.dropWhile_eq_nil_iff.mpr decimalWhole,
    List.nil_append, cutFraction, List.takeWhile_append_of_pos decimalFraction,
    List.dropWhile_append_of_pos decimalFraction]

/-- The digits of a mantissa and the places among them are read. -/
theorem Mantissa.cutMantissa_append (mantissa : Mantissa text number)
    (stops : ∀ c ∈ rest.head?, c.isDigit = false ∧ c ≠ '.') : ∃ whole pointed,
    text = whole ++ pointed ∧ cutMantissa (text ++ rest) = (whole, pointed, rest) ∧
      whole ++ pointed.drop 1 ≠ [] ∧
      number = value (whole ++ pointed.drop 1) / 10 ^ (pointed.drop 1).length := by
  cases mantissa with
  | whole decimal nonempty =>
    refine ⟨text, [], (List.append_nil text).symm, cutMantissa_digits decimal stops, ?_, ?_⟩
    · rwa [List.drop_nil, List.append_nil]
    · rw [List.drop_nil, List.append_nil, List.length_nil, pow_zero, div_one]
  | @pointed whole fraction decimalWhole decimalFraction nonempty =>
    have noDigit : ∀ c ∈ rest.head?, c.isDigit = false := fun c first => (stops c first).1
    refine ⟨whole, '.' :: fraction, rfl, ?_, nonempty, ?_⟩
    · rw [List.append_assoc, List.cons_append, cutMantissa_pointed decimalWhole decimalFraction,
        Text.takeWhile_eq_nil noDigit, Text.dropWhile_eq_self noDigit, List.append_nil]
    · exact value_places whole fraction

/-! ## Exponent parts -/

theorem ExponentPart.exponent?_eq (isExponent : ExponentPart text exponent) :
    exponent? text = some exponent := by
  cases isExponent with
  | none => rfl
  | @marked marker sign digits negative isMarker isSign decimal nonempty =>
    have unsigned : ∀ c ∈ digits.head?, c ≠ '+' ∧ c ≠ '-' := fun c first =>
      ne_sign_of_isDigit (decimal c (List.mem_of_mem_head? first))
    have digitsOnly : digits.all Char.isDigit = true := List.all_eq_true.mpr decimal
    rw [exponent?, isSign.cutSign_append unsigned]
    simp only [isMarker, ne_eq, nonempty, not_false_eq_true, digitsOnly, and_self, if_true]
    cases isSign <;> rfl

theorem ExponentPart.head? (isExponent : ExponentPart text exponent) :
    ∀ c ∈ text.head?, c.isDigit = false ∧ c ≠ '.' := by
  cases isExponent with
  | none => exact fun _ first => nomatch first
  | marked isMarker =>
    rintro c ⟨⟩
    rcases isMarker with rfl | rfl <;> decide

/-! ## Literals -/

/-- The reader takes every literal and finds its sign and its number. -/
theorem Literal.ofLiteral?_eq (literal : Literal text negative number) :
    ∃ decimal, ofLiteral? text = some (negative, decimal) ∧ decimal.toRat = number := by
  rcases literal with @⟨sign, mantissa, exponentPart, negative, real, exponent, isSign, isMantissa,
    isExponent⟩
  rcases isMantissa.cutMantissa_append isExponent.head? with
    ⟨whole, pointed, _, cut, nonempty, rfl⟩
  refine ⟨⟨value (whole ++ pointed.drop 1), exponent - (pointed.drop 1).length⟩, ?_, ?_⟩
  · rw [ofLiteral?, isSign.cutSign_append isMantissa.unsigned]
    simp only [cut, nonempty, if_false, isExponent.exponent?_eq, Option.map_some, isSign.eq_minus]
  · rw [toRat, zpow_sub₀ (by norm_num), zpow_natCast]
    ring

end Decimal
end Worksheet
