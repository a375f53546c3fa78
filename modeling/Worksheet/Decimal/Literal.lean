import Worksheet.Decimal.Binary64
import Worksheet.Numeral

namespace Worksheet
namespace Decimal

/-!
Decimal literals.  A literal has digits with at most one point before, among or
after them, maybe a sign before these and maybe an exponent part after them.
-/

/-- A sign at the beginning of a text, and what follows it. -/
def cutSign : List Char → List Char × List Char
  | '+' :: rest => (['+'], rest)
  | '-' :: rest => (['-'], rest)
  | text => ([], text)

/-- A point at the beginning of a text with the digits after it, and what follows
them. -/
def cutFraction : List Char → List Char × List Char
  | '.' :: rest => ('.' :: rest.takeWhile Char.isDigit, rest.dropWhile Char.isDigit)
  | text => ([], text)

/-- The digits at the beginning of a text, the point with digits that follows
them, and what follows these. -/
def cutMantissa (text : List Char) : List Char × List Char × List Char :=
  (text.takeWhile Char.isDigit, cutFraction (text.dropWhile Char.isDigit))

/-- The exponent that an exponent part stands for.  Without such a part it is
zero. -/
def exponent? : List Char → Option Int
  | [] => some 0
  | marker :: rest =>
    let (sign, digits) := cutSign rest
    if (marker = 'e' ∨ marker = 'E') ∧ digits ≠ [] ∧ digits.all Char.isDigit then
      let magnitude : Int := Numeral.value digits
      some (if sign = ['-'] then -magnitude else magnitude)
    else none

/-- Whether a literal has a minus, and the decimal that it stands for.  A text
is taken as a whole or not at all. -/
def ofLiteral? (literal : List Char) : Option (Bool × Decimal) :=
  let (sign, unsigned) := cutSign literal
  let (whole, pointed, exponentPart) := cutMantissa unsigned
  let fraction := pointed.drop 1
  if whole ++ fraction = [] then none
  else (exponent? exponentPart).map fun exponent =>
    (decide (sign = ['-']), ⟨Numeral.value (whole ++ fraction), exponent - fraction.length⟩)

end Decimal
end Worksheet
