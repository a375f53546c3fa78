import Worksheet.Cell.Json
import Worksheet.Document.Basic

namespace Worksheet

/-!
Documents in JSON.  Of repeated keys of cells and dimensions the last counts.
-/

/-- The grid that a value describes. -/
def Grid.ofJson? (json : Json) : Option Grid :=
  (json.entries? Cell.ofJson?).map .ofList

/-- A grid as a value. -/
def Grid.toJson (grid : Grid) : Json :=
  .ofFields (grid.toList.map fun (id, cell) => (id, cell.toJson))

/-- The dimensions that a value describes. -/
def Dimensions.ofJson? (json : Json) : Option Dimensions :=
  (json.entries? Json.float?).map fun entries =>
    entries.foldl (fun dimensions (key, size) => dimensions.insert key size) ∅

/-- Dimensions as a value. -/
def Dimensions.toJson (dimensions : Dimensions) : Json :=
  .ofFields (dimensions.toList.map fun (key, size) => (key, .ofFloat size))

/-- The instant that a value describes. -/
def Instant.ofJson? (json : Json) : Option Instant :=
  json.string?.bind fun text => Instant.parse? text.toList

/-- The draft that a value describes. -/
def DocumentDraft.ofJson? (json : Json) : Option DocumentDraft := do
  match ← json.record? ["name", "data", "columnWidths", "rowHeights"] with
  | [name, data, columnWidths, rowHeights] =>
    return {
      name := ← Json.optional? Json.string? name
      data := ← Json.defaulted? .empty Grid.ofJson? data
      columnWidths := ← Json.optional? Dimensions.ofJson? columnWidths
      rowHeights := ← Json.optional? Dimensions.ofJson? rowHeights }
  | _ => none

/-- The patch that a value describes. -/
def DocumentPatch.ofJson? (json : Json) : Option DocumentPatch := do
  match ← json.record? ["name", "data", "columnWidths", "rowHeights"] with
  | [name, data, columnWidths, rowHeights] =>
    return {
      name := ← Json.optional? Json.string? name
      data := ← Json.optional? Grid.ofJson? data
      columnWidths := ← Json.optional? Dimensions.ofJson? columnWidths
      rowHeights := ← Json.optional? Dimensions.ofJson? rowHeights }
  | _ => none

namespace Document

/-- The document that a value describes. -/
def ofJson? (json : Json) : Option Document := do
  match ← json.record? ["id", "name", "data", "columnWidths", "rowHeights", "lastModified"] with
  | [some id, name, data, columnWidths, rowHeights, lastModified] =>
    return {
      id := ← id.uint64?
      name := ← Json.optional? Json.string? name
      data := ← Json.defaulted? .empty Grid.ofJson? data
      columnWidths := ← Json.optional? Dimensions.ofJson? columnWidths
      rowHeights := ← Json.optional? Dimensions.ofJson? rowHeights
      lastModified := ← Json.optional? Instant.ofJson? lastModified }
  | _ => none

/-- A document as a value. -/
def toJson (document : Document) : Json :=
  .ofFields (
    ("id", .ofNat document.id.toNat) ::
    Json.present "name" .ofString document.name ++
    ("data", document.data.toJson) ::
    Json.present "columnWidths" Dimensions.toJson document.columnWidths ++
    Json.present "rowHeights" Dimensions.toJson document.rowHeights ++
    Json.present "lastModified" (fun instant => .ofString instant.text) document.lastModified)

end Document
end Worksheet
