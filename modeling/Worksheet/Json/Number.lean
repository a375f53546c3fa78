import Worksheet.Decimal.Shortest
import Worksheet.Json.Basic
import Worksheet.Numeral

namespace Worksheet
namespace Json

/-!
JSON numbers as machine numbers.  A double is read from a significand of at
most 64 bits, to which digits are taken as long as it does not overflow, and
one scaling by a power of ten in double arithmetic; so the result may differ
from the nearest double in its last place.  A number beyond the doubles is an
error.
-/

/-- The parts of a number literal. -/
structure NumberParts where
  negative : Bool
  whole : List Char
  fraction : List Char
  exponent : Int
  /-- Whether neither a fraction nor an exponent is written. -/
  integral : Bool
deriving DecidableEq, Repr

/-- The exponent that follows the marker of a literal. -/
def exponentPart (text : List Char) : Int :=
  match text with
  | '-' :: digits => -(Numeral.value digits : Int)
  | '+' :: digits => Numeral.value digits
  | digits => Numeral.value digits

/-- The parts of a literal. -/
def NumberParts.ofLiteral (literal : List Char) : NumberParts :=
  let negative := literal.head? = some '-'
  let unsigned := if negative then literal.drop 1 else literal
  let whole := unsigned.takeWhile Char.isDigit
  let rest := unsigned.dropWhile Char.isDigit
  let fraction := if rest.head? = some '.' then (rest.drop 1).takeWhile Char.isDigit else []
  let marked := rest.dropWhile fun c => c = '.' || c.isDigit
  { negative
    whole
    fraction
    exponent := exponentPart (marked.drop 1)
    integral := rest = [] }

/-- The first number that does not fit in a significand. -/
def significandLimit : Nat := Nat.pow 2 64

/-- A significand, its exponent, and whether it has refused a digit. -/
structure Significand where
  value : Nat
  exponent : Int
  full : Bool
deriving DecidableEq, Repr

/-- Takes a digit before the point: one that does not fit moves the
exponent. -/
def Significand.takeWhole (significand : Significand) (c : Char) : Significand :=
  let value := significand.value * 10 + Numeral.digitValue c
  if significand.full || significandLimit ≤ value then
    { significand with exponent := significand.exponent + 1, full := true }
  else { significand with value }

/-- Takes a digit after the point: one that does not fit is dropped, and so
are those behind it. -/
def Significand.takeFraction (significand : Significand) (c : Char) : Significand :=
  let value := significand.value * 10 + Numeral.digitValue c
  if significand.full || significandLimit ≤ value then { significand with full := true }
  else { significand with value, exponent := significand.exponent - 1 }

/-- The significand of a literal's digits. -/
def Significand.ofDigits (whole fraction : List Char) : Significand :=
  let wholePart := whole.foldl takeWhole ⟨0, 0, false⟩
  fraction.foldl takeFraction { wholePart with full := false }

/-- A positive double scaled by a power of ten, unless it becomes infinite.
Very small powers are applied in steps of 10^308. -/
def scale? (number : Float) (exponent : Int) : Option Float :=
  if exponent < -308 then
    if number == 0 then some number else scale? (number / Decimal.toFloat false ⟨1, 308⟩) (exponent + 308)
  else if exponent < 0 then some (number / Decimal.toFloat false ⟨1, -exponent⟩)
  else if 308 < exponent then if number == 0 then some number else none
  else
    let product := number * Decimal.toFloat false ⟨1, exponent⟩
    if product.isInf then none else some product
termination_by (-exponent).toNat
decreasing_by omega

/-- The double that a literal stands for. -/
def toFloat? (literal : List Char) : Option Float :=
  let parts := NumberParts.ofLiteral literal
  let significand := Significand.ofDigits parts.whole parts.fraction
  let magnitude := scale? (UInt64.ofNat significand.value).toFloat
    (significand.exponent + parts.exponent)
  magnitude.map fun magnitude => if parts.negative then -magnitude else magnitude

/-- The natural number below 2^64 that a literal stands for.  It has no sign,
point or exponent. -/
def toUInt64? (literal : List Char) : Option UInt64 :=
  let parts := NumberParts.ofLiteral literal
  let value := Numeral.value parts.whole
  if parts.integral ∧ ¬parts.negative ∧ value < significandLimit then some (UInt64.ofNat value)
  else none

/-! ## Writing -/

/-- Doubles are written without an exponent part from 10^-5 up to 10^16, an
integral one with a zero after the point; a tie between shortest decimals
goes to the even one. -/
def floatLayout : Decimal.Layout := ⟨-5, 16, ['.', '0'], .toEven⟩

/-- The value of a double; a double that is no number is written as null. -/
def ofFloat (number : Float) : Json :=
  match Binary64.kind number with
  | .finite negative magnitude =>
    let digits :=
      if magnitude = 0 then ['0', '.', '0']
      else (Decimal.shortest floatLayout.tie magnitude).write floatLayout
    .number (if negative then '-' :: digits else digits)
  | _ => .null

/-- The value of a natural number. -/
def ofNat (number : Nat) : Json :=
  .number (Numeral.ofNat number)

/-- The value of an integer. -/
def ofInt (number : Int) : Json :=
  .number (Numeral.ofInt number)

end Json
end Worksheet
