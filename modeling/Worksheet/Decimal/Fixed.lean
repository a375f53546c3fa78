import Worksheet.Decimal.Binary64
import Worksheet.Numeral

namespace Worksheet
namespace Decimal

/-!
Doubles with a fixed number of places.  The decimal expansion of a double ends,
so all its digits can be written.  They are cut after the places asked for, and
if the first digit behind the cut is at least five, one is added in the last
place that is kept.
-/

/-- The first places after the point of a proper fraction, by long division. -/
def fractionDigits (denominator : Nat) : Nat → Nat → List Char
  | 0, _ => []
  | places + 1, remainder =>
    Numeral.digit (remainder * 10 / denominator) ::
      fractionDigits denominator places (remainder * 10 % denominator)

/-- So many places are enough for every double. -/
def exactPlaces : Nat := 1100

/-- Adds one to the number whose digits are given from the last to the first.
A nine becomes zero and hands the one on, which may become a digit of its own. -/
def addOne : List Char → List Char
  | [] => ['1']
  | c :: rest =>
    if c = '9' then '0' :: addOne rest else Numeral.digit (Numeral.digitValue c + 1) :: rest

/-- The digits of the next number. -/
def increment (digits : List Char) : List Char :=
  (addOne digits.reverse).reverse

/-- The digits before the point and the first places after it, rounded by the
digit that follows them. -/
def roundedDigits (whole fraction : List Char) (places : Nat) : List Char :=
  let kept := whole ++ fraction.take places
  if fraction[places]?.any ('5' ≤ ·) then increment kept else kept

/-- A binary fraction with a fixed number of places. -/
def fixed (value : Binary64.Dyadic) (places : Nat) : List Char :=
  let whole := Numeral.ofNat (value.numerator / value.denominator)
  let fraction :=
    fractionDigits value.denominator exactPlaces (value.numerator % value.denominator)
  let digits := roundedDigits whole fraction places
  let wholeLength := digits.length - places
  digits.take wholeLength ++ if places = 0 then [] else '.' :: digits.drop wholeLength

end Decimal
end Worksheet
