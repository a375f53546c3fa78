import Worksheet.Cell.Basic
import Worksheet.Number

namespace Worksheet
namespace Cell

/-!
What a cell shows.  A formula shows its result as it is; a typed text is
shown by its declared type, and as it is where it does not fit the type.
-/

/-- The text that a value of a declared type shows. -/
def displayAs (type : ContentType) (value : String) : String :=
  match type with
  | .text => value
  | .number =>
    match Number.parse? value with
    | some number => if number.isFinite then Number.grouped number else value
    | none => value
  | .date =>
    match CalendarDate.parse? value.toList with
    | some date => String.ofList date.slashed
    | none => value
  | .boolean => if ContentType.isWord "true" value.toList then "TRUE" else "FALSE"

/-- The text that a cell shows. -/
def display (cell : Cell) : String :=
  let value := cell.value.getD ""
  if value.isEmpty || cell.hasFormula then value
  else displayAs (cell.type.getD .text) value

end Cell
end Worksheet
