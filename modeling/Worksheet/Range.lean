import Worksheet.Address
import Worksheet.Reference
import Worksheet.Text.Split

namespace Worksheet

/-!
Ranges.  The text of a range argument is a single reference, a list of
references between commas, or two corners joined by a colon.  A rectangle is
listed column by column.  Lists and single references are taken as written,
so they may hold texts that are no identifiers.
-/

/-- The most cells that a rectangle may have. -/
def maxRangeCells : Nat := 1000000

/-- The forms of a range argument. -/
inductive Range where
  | single (id : String)
  | list (ids : List String)
  | rectangle (first last : Address)
  /-- Two corners of which one is no identifier; such a range has no cells. -/
  | malformed (text : String)
deriving DecidableEq, Repr

/-- A rectangle with too many cells. -/
structure RangeError where
  first : Address
  last : Address
  cells : Nat
deriving DecidableEq, Repr

/-- The wording of the error. -/
def RangeError.message (error : RangeError) : String :=
  "range " ++ error.first.id ++ ":" ++ error.last.id ++ " covers " ++ Numeral.text error.cells ++
    " cells (max " ++ Numeral.text maxRangeCells ++ ")"

namespace Range

/-- The form of a range argument.  Dollar signs do not count, and only the
first two parts between colons do. -/
def ofText (raw : List Char) : Range :=
  let text := Reference.dropDollars raw
  let trimmed (part : List Char) : String := String.ofList (Text.trim part)
  if text.contains ',' then .list ((Text.split ',' text).map trimmed)
  else
    let parts := (Text.split ':' text).map trimmed
    let first := parts.headD ""
    let last := (parts.drop 1).headD ""
    if last = "" then .single first
    else match Address.parse? first, Address.parse? last with
      | some first, some last => .rectangle first last
      | _, _ => .malformed (String.ofList text)

/-- The identifiers of a block of rows in one column. -/
def columnIds (column firstRow rows : Nat) : List String :=
  let letters := Column.letters column
  (List.range' firstRow rows).map fun row => String.ofList (letters ++ Numeral.ofNat row)

/-- The identifiers that a range covers, in order. -/
def cells : Range → Except RangeError (List String)
  | single id => .ok [id]
  | list ids => .ok ids
  | malformed _ => .ok []
  | rectangle first last =>
    if last.column < first.column ∨ last.row < first.row then .ok []
    else
      let columns := last.column - first.column + 1
      let rows := last.row - first.row + 1
      if maxRangeCells < columns * rows then .error ⟨first, last, columns * rows⟩
      else .ok ((List.range' first.column columns).flatMap (columnIds · first.row rows))

/-- The identifiers that the text of a range covers. -/
def expand (raw : List Char) : Except RangeError (List String) :=
  (ofText raw).cells

end Range
end Worksheet
