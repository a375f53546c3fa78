import Worksheet.Address
import Worksheet.Text.Scan

namespace Worksheet

/-!
References inside formulas.  A dollar sign before the letters fixes the
column, one before the digits fixes the row.  Tokens are the upper-case
references that a left-to-right search of a text finds; a token need not be a
reference, since its row may be zero or a part may be too large.
-/

/-- An address together with the parts that a shift leaves alone. -/
structure Reference where
  address : Address
  columnFixed : Bool
  rowFixed : Bool
deriving DecidableEq, Repr

namespace Reference

/-- Whether a text begins with a dollar sign, and what follows it. -/
def takeDollar : List Char → Bool × List Char
  | '$' :: rest => (true, rest)
  | text => (false, text)

/-- The dollar sign that marks a fixed part. -/
def dollar (isFixed : Bool) : List Char :=
  if isFixed then ['$'] else []

/-- Reads one reference, with blanks around it. -/
def ofChars? (text : List Char) : Option Reference :=
  let (columnFixed, afterMark) := takeDollar (Text.trim text)
  let letters := afterMark.takeWhile Char.isAlpha
  let (rowFixed, digits) := takeDollar (afterMark.dropWhile Char.isAlpha)
  if digits.all Char.isDigit then do
    let column ← Column.ofLetters? letters
    let row ← Row.ofDigits? digits
    return ⟨⟨column, row⟩, columnFixed, rowFixed⟩
  else none

/-- The characters of a reference. -/
def chars (reference : Reference) : List Char :=
  dollar reference.columnFixed ++ Column.letters reference.address.column ++
    dollar reference.rowFixed ++ Numeral.ofNat reference.address.row

/-- The identifier of the cell that a reference names. -/
def id (reference : Reference) : String :=
  reference.address.id

/-- A reference whose free parts are moved by columns and rows. -/
def shift (reference : Reference) (columns rows : Int) : Reference :=
  { reference with
    address := reference.address.shift
      (if reference.columnFixed then 0 else columns)
      (if reference.rowFixed then 0 else rows) }

/-! ## Tokens -/

/-- How many characters a reference token takes at the beginning of a text:
upper-case letters and digits, each possibly after a dollar sign. -/
def tokenMeasure (text : List Char) : Nat :=
  let (columnFixed, afterMark) := takeDollar text
  let letters := afterMark.takeWhile Char.isUpper
  let (rowFixed, afterSecondMark) := takeDollar (afterMark.dropWhile Char.isUpper)
  let digits := afterSecondMark.takeWhile Char.isDigit
  if letters = [] ∨ digits = [] then 0
  else columnFixed.toNat + letters.length + rowFixed.toNat + digits.length

/-- How many characters two tokens joined by a colon take. -/
def rangeTokenMeasure (text : List Char) : Nat :=
  match tokenMeasure text with
  | 0 => 0
  | first + 1 =>
    match text.drop (first + 1) with
    | ':' :: rest =>
      match tokenMeasure rest with
      | 0 => 0
      | second + 1 => first + 1 + 1 + (second + 1)
    | _ => 0

/-- A text without its dollar signs. -/
def dropDollars (text : List Char) : List Char :=
  text.filter (· ≠ '$')

end Reference
end Worksheet
