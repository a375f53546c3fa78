import Worksheet.Decimal.Binary64
import Worksheet.Numeral

namespace Worksheet
namespace Decimal

/-!
The shortest decimal of a double.  For one, two and up to seventeen digits
the two decimals next to the value are tried, and the first length at which
one of them reads back as the same double is taken, with the nearer of the
two if both do.  Seventeen digits are always enough; the exact expansion
stands behind them, so the result reads back in any case.
-/

/-- Where a tie between two equally near decimals goes. -/
inductive Tie where
  | toEven
  | up
deriving DecidableEq, Repr

/-- The exponent of the leading digit of a positive fraction. -/
def leadingExponent (numerator denominator : Nat) : Int :=
  let guess := (Binary64.floorLog2 numerator denominator * 30103).fdiv 100000
  if denominator * Nat.pow 10 (guess + 1).toNat ≤ numerator * Nat.pow 10 (-(guess + 1)).toNat then
    guess + 1
  else guess

/-- A decimal whose significand has no trailing zeros. -/
def dropZeros (decimal : Decimal) : Decimal :=
  if decimal.significand ≠ 0 ∧ decimal.significand % 10 = 0 then
    dropZeros ⟨decimal.significand / 10, decimal.exponent + 1⟩
  else decimal
termination_by decimal.significand
decreasing_by omega

/-- Of the two decimals with the given last place next to a fraction, the
nearest one that reads back as the magnitude. -/
def neighbour? (tie : Tie) (magnitude numerator denominator : Nat) (exponent : Int) :
    Option Decimal :=
  let scaledNumerator := numerator * Nat.pow 10 (-exponent).toNat
  let scaledDenominator := denominator * Nat.pow 10 exponent.toNat
  let below := scaledNumerator / scaledDenominator
  let twice := 2 * (scaledNumerator % scaledDenominator)
  let lower : Decimal := ⟨below, exponent⟩
  let upper : Decimal := ⟨below + 1, exponent⟩
  let takeUpper :=
    if twice = scaledDenominator then
      match tie with
      | .toEven => below % 2 = 1
      | .up => true
    else decide (scaledDenominator < twice)
  if lower.magnitude = magnitude then
    if upper.magnitude = magnitude then some (if takeUpper then upper else lower)
    else some lower
  else if upper.magnitude = magnitude then some upper
  else none

/-- The exact decimal of a binary fraction. -/
def ofDyadic (value : Binary64.Dyadic) : Decimal :=
  ⟨value.numerator * Nat.pow 5 (-value.exponent).toNat, -((-value.exponent).toNat : Int)⟩

/-- The shortest decimal that reads back as a finite magnitude. -/
def shortest (tie : Tie) (magnitude : Nat) : Decimal :=
  let value := Binary64.exact magnitude
  let lead := leadingExponent value.numerator value.denominator
  let found := (List.range 17).findSome? fun (digits : Nat) =>
    neighbour? tie magnitude value.numerator value.denominator (lead - digits)
  dropZeros (found.getD (ofDyadic value))

/-! ## Writing -/

/-- How a program writes doubles. -/
structure Layout where
  /-- The least exponent of a leading digit that is written without an exponent part. -/
  least : Int
  /-- The first exponent of a leading digit that is written with an exponent part. -/
  limit : Int
  /-- What follows an integral number. -/
  integralEnd : List Char
  /-- Where ties between two shortest decimals go. -/
  tie : Tie

/-- Digits with a point after as many of them as given, filled up with zeros. -/
def positional (digits : List Char) (pointAfter : Int) (integralEnd : List Char) : List Char :=
  if pointAfter ≤ 0 then
    '0' :: '.' :: (List.replicate (-pointAfter).toNat '0' ++ digits)
  else if digits.length ≤ pointAfter then
    digits ++ List.replicate (pointAfter.toNat - digits.length) '0' ++ integralEnd
  else digits.take pointAfter.toNat ++ '.' :: digits.drop pointAfter.toNat

/-- Digits with a point after the first and a signed exponent part. -/
def scientific (digits : List Char) (exponent : Int) : List Char :=
  digits.take 1 ++ (if digits.length ≤ 1 then [] else '.' :: digits.drop 1) ++
    'e' :: (if exponent < 0 then '-' else '+') :: Numeral.ofNat exponent.natAbs

/-- The text of a decimal whose significand is not zero. -/
def write (layout : Layout) (decimal : Decimal) : List Char :=
  let digits := Numeral.ofNat decimal.significand
  let lead := decimal.exponent + digits.length - 1
  if layout.least ≤ lead ∧ lead < layout.limit then
    positional digits (lead + 1) layout.integralEnd
  else scientific digits lead

end Decimal
end Worksheet
