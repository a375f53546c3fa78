import Worksheet.Cell.Content

namespace Worksheet

/-!
Cells and their updates.  A cell holds text: what was typed into it, or what
its formula gave.  A text is a formula when it begins with an equals sign.
An update changes the parts it names and leaves the others.
-/

/-- Where a text stands in its cell. -/
inductive Alignment where
  | left
  | center
  | right
deriving DecidableEq, Repr

namespace Alignment

/-- Every alignment, in the order of declaration. -/
def all : List Alignment := [.left, .center, .right]

/-- The name of an alignment in documents. -/
def name : Alignment → String
  | left => "left"
  | center => "center"
  | right => "right"

/-- The alignment with a name. -/
def ofName? (name : String) : Option Alignment :=
  all.find? (·.name = name)

end Alignment

/-- How a cell is shown; no computation depends on it. -/
structure CellFormat where
  bold : Option Bool := none
  italic : Option Bool := none
  fontSize : Option Float := none
  color : Option String := none
  align : Option Alignment := none
deriving DecidableEq

/-- A format with the settings of another laid over it. -/
def CellFormat.overlay (format upper : CellFormat) : CellFormat :=
  { bold := upper.bold <|> format.bold
    italic := upper.italic <|> format.italic
    fontSize := upper.fontSize <|> format.fontSize
    color := upper.color <|> format.color
    align := upper.align <|> format.align }

/-- Whether a text is a formula. -/
def isFormula (text : String) : Bool :=
  text.toList.head? = some '='

/-- A cell of a sheet. -/
structure Cell where
  value : Option String := none
  formula : Option String := none
  type : Option ContentType := none
  format : Option CellFormat := none
deriving DecidableEq

/-- Changes to a cell.  What is missing stays, and an empty value or formula
takes the old one away. -/
structure CellUpdate where
  value : Option String := none
  formula : Option String := none
  type : Option ContentType := none
  format : Option CellFormat := none
deriving DecidableEq

namespace CellUpdate

/-- What typing a text into a cell changes: a formula is stored as formula
and, until it is evaluated, as value; any other text takes a formula away. -/
def input (raw : String) : CellUpdate :=
  { value := some raw, formula := some (if isFormula raw then raw else "") }

/-- Takes value and formula away. -/
def clear : CellUpdate :=
  { value := some "", formula := some "" }

/-- Changes the format only. -/
def ofFormat (format : CellFormat) : CellUpdate :=
  { format := some format }

end CellUpdate

namespace Cell

/-- The cell that holds a typed text. -/
def ofInput (raw : String) : Cell :=
  if isFormula raw then { value := some raw, formula := some raw }
  else { value := some raw, type := some (.infer raw) }

/-- The formula of a cell, if it has the form of one. -/
def activeFormula? (cell : Cell) : Option String :=
  cell.formula.filter isFormula

/-- Whether a cell has a formula. -/
def hasFormula (cell : Cell) : Bool :=
  cell.activeFormula?.isSome

/-- Whether a cell reads as empty. -/
def isBlank (cell : Cell) : Bool :=
  (cell.value.getD "").isEmpty && !cell.hasFormula

/-- A text, or nothing for the empty one. -/
def present (text : String) : Option String :=
  if text.isEmpty then none else some text

/-- A cell with an update merged in.  A new value without a declared type
gets the type of its text, unless the cell has a formula. -/
def apply (cell : Cell) (update : CellUpdate) : Cell :=
  let value := match update.value with
    | some text => present text
    | none => cell.value
  let formula := match update.formula with
    | some text => present text
    | none => cell.formula
  let type := match update.type with
    | some type => some type
    | none =>
      if update.value.isSome && !(formula.filter isFormula).isSome then value.map .infer
      else cell.type
  let format := match update.format with
    | some upper => some ((cell.format.getD {}).overlay upper)
    | none => cell.format
  { value, formula, type, format }

end Cell
end Worksheet
