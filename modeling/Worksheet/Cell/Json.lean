import Worksheet.Cell.Basic
import Worksheet.Json.Record

namespace Worksheet

/-!
Cells and formats in JSON.  Settings that a cell does not have are left out.
-/

namespace CellFormat

/-- The format that a value describes. -/
def ofJson? (json : Json) : Option CellFormat := do
  match ← json.record? ["bold", "italic", "fontSize", "color", "align"] with
  | [bold, italic, fontSize, color, align] =>
    return {
      bold := ← Json.optional? Json.bool? bold
      italic := ← Json.optional? Json.bool? italic
      fontSize := ← Json.optional? Json.float? fontSize
      color := ← Json.optional? Json.string? color
      align := ← Json.optional? (Json.word? Alignment.ofName?) align }
  | _ => none

/-- A format as a value. -/
def toJson (format : CellFormat) : Json :=
  .ofFields (
    Json.present "bold" .bool format.bold ++
    Json.present "italic" .bool format.italic ++
    Json.present "fontSize" .ofFloat format.fontSize ++
    Json.present "color" .ofString format.color ++
    Json.present "align" (fun align => .ofString align.name) format.align)

end CellFormat

namespace Cell

/-- The cell that a value describes. -/
def ofJson? (json : Json) : Option Cell := do
  match ← json.record? ["value", "formula", "type", "format"] with
  | [value, formula, type, format] =>
    return {
      value := ← Json.optional? Json.string? value
      formula := ← Json.optional? Json.string? formula
      type := ← Json.optional? (Json.word? ContentType.ofName?) type
      format := ← Json.optional? CellFormat.ofJson? format }
  | _ => none

/-- A cell as a value. -/
def toJson (cell : Cell) : Json :=
  .ofFields (
    Json.present "value" .ofString cell.value ++
    Json.present "formula" .ofString cell.formula ++
    Json.present "type" (fun type => .ofString type.name) cell.type ++
    Json.present "format" CellFormat.toJson cell.format)

end Cell
end Worksheet
