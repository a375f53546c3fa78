import Worksheet.Decimal.Shortest
import Worksheet.Decimal.Fixed
import Worksheet.Decimal.Literal
import Worksheet.Text.Blank

namespace Worksheet
namespace Number

/-!
Numbers in cells.  Cells hold text; a text counts as the number that its
longest numeric beginning denotes, so `12abc` counts as twelve.  Computed
numbers are written with the fewest digits that read back.
-/

/-! ## Reading -/

open Decimal (cutSign cutMantissa)

/-- An exponent part at the beginning of a text, and what follows it.  A marker
without digits is none, and stays. -/
def cutExponent (text : List Char) : List Char × List Char :=
  match text with
  | [] => ([], [])
  | marker :: rest =>
    let (sign, unsigned) := cutSign rest
    let digits := unsigned.takeWhile Char.isDigit
    if (marker = 'e' ∨ marker = 'E') ∧ digits ≠ [] then
      (marker :: (sign ++ digits), unsigned.dropWhile Char.isDigit)
    else ([], text)

/-- The decimal literal at the beginning of a text, and what follows it. -/
def cutLiteral? (text : List Char) : Option (List Char × List Char) :=
  let (sign, unsigned) := cutSign text
  let (whole, pointed, afterMantissa) := cutMantissa unsigned
  if whole ++ pointed.drop 1 = [] then none
  else
    let (exponentPart, rest) := cutExponent afterMantissa
    some (sign ++ (whole ++ (pointed ++ exponentPart)), rest)

/-- The spelling of infinity. -/
def infinityText : List Char := "Infinity".toList

/-- The number at the beginning of a text, after blanks, and what follows
it. -/
def read? (text : List Char) : Option (Float × List Char) :=
  let trimmed := Text.trimStart text
  let (sign, unsigned) := cutSign trimmed
  if infinityText.isPrefixOf unsigned then
    some (Binary64.ofMagnitude (sign = ['-']) Binary64.infinity, unsigned.drop infinityText.length)
  else do
    let (literal, rest) ← cutLiteral? trimmed
    let (negative, decimal) ← Decimal.ofLiteral? literal
    return (decimal.toFloat negative, rest)

/-- The number that a text counts as. -/
def parse? (text : String) : Option Float :=
  (read? text.toList).map Prod.fst

/-! ## Writing -/

/-- A minus sign, or nothing. -/
def sign (negative : Bool) : List Char :=
  if negative then ['-'] else []

/-- Computed numbers are written without an exponent part from 10^-6 up to
10^21, and of two shortest decimals equally near the greater is taken. -/
def layout : Decimal.Layout := ⟨-6, 21, [], .up⟩

/-- The characters of a number as a result.  Zero has no sign. -/
def chars (number : Float) : List Char :=
  match Binary64.kind number with
  | .notANumber => "NaN".toList
  | .infinite negative => sign negative ++ infinityText
  | .finite negative magnitude =>
    if magnitude = 0 then ['0']
    else sign negative ++ (Decimal.shortest layout.tie magnitude).write layout

/-- The text of a number as a result. -/
def text (number : Float) : String :=
  String.ofList (chars number)

/-- Whether a magnitude is too large for a fixed number of places. -/
def exceedsFixed (magnitude : Nat) : Bool :=
  let value := Binary64.exact magnitude
  Nat.pow 10 21 * value.denominator ≤ value.numerator

/-- The characters of a number with a fixed number of places.  Numbers from
10^21 on are written as results. -/
def fixedChars (number : Float) (places : Nat) : List Char :=
  match Binary64.kind number with
  | .finite negative magnitude =>
    if exceedsFixed magnitude then chars number
    else
      sign (negative && magnitude != 0) ++ Decimal.fixed (Binary64.exact magnitude) places
  | _ => chars number

/-- The text of a number with a fixed number of places. -/
def fixed (number : Float) (places : Nat) : String :=
  String.ofList (fixedChars number places)

/-! ## Grouping -/

/-- The places of an integer part before which a comma stands, counted from
its end, are the positive multiples of three. -/
def group (digits : List Char) : List Char :=
  match digits with
  | [] => []
  | [c] => [c]
  | c :: rest => if rest.length % 3 = 0 then c :: ',' :: group rest else c :: group rest

/-- A number with at most three places and commas between groups of three
digits.  A number that rounds to zero has no sign. -/
def grouped (number : Float) : String :=
  match Binary64.kind number with
  | .finite _ magnitude =>
    if exceedsFixed magnitude then text number
    else
      let (sign, digits) := cutSign (fixedChars number 3)
      let whole := digits.takeWhile (· ≠ '.')
      let fraction := digits.drop (whole.length + 1)
      let significant := (fraction.reverse.dropWhile (· = '0')).reverse
      let grouping := group whole
      String.ofList ((if grouping.all (fun c => c = '0' || c = ',') && significant = [] then []
        else sign) ++ grouping ++ if significant = [] then [] else '.' :: significant)
  | _ => text number

end Number
end Worksheet
