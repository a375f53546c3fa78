import Worksheet.Cell.Display
import Worksheet.Document.Basic
import Worksheet.Formula.Relocation
import Worksheet.Recalculation.Edit

namespace Worksheet
namespace Document

/-!
Work on documents.  Identifiers are taken in any spelling.  Every change is
recalculated in the given mode, except changes of format.
-/

/-- Merges an update into a cell. -/
def edit (document : Document) (mode : RecalculationMode) (now : Instant) (id : String)
    (change : CellUpdate) : Document :=
  { document with data := document.data.edit mode id change }.stamp now

/-- Types a text into a cell. -/
def setInput (document : Document) (mode : RecalculationMode) (now : Instant)
    (id raw : String) : Document :=
  document.edit mode now id (.input raw)

/-- Lays a format over that of a cell. -/
def setFormat (document : Document) (now : Instant) (id : String) (format : CellFormat) :
    Document :=
  { document with data := document.data.update (canonicalId id) (.ofFormat format) }.stamp now

/-- Takes value and formula of a cell away. -/
def clear (document : Document) (mode : RecalculationMode) (now : Instant) (id : String) :
    Document :=
  document.edit mode now id .clear

/-- The update that makes a cell a copy of another: its formula moved along,
or its value, and its type and format. -/
def copyUpdate (source : Cell) (sourceId targetId : String) : CellUpdate :=
  match source.activeFormula? with
  | some formula =>
    let moved := Formula.move formula sourceId targetId
    { value := some moved, formula := some moved, type := source.type, format := source.format }
  | none =>
    { value := some (source.value.getD "")
      formula := some ""
      type := source.type
      format := source.format }

/-- Copies a cell to another. -/
def copy (document : Document) (mode : RecalculationMode) (now : Instant)
    (source target : String) : Document :=
  let sourceId := canonicalId source
  let targetId := canonicalId target
  let cell := (document.data.get? sourceId).getD {}
  document.edit mode now targetId (copyUpdate cell sourceId targetId)

/-- The cells that a fill writes: those of the range that are identifiers,
without the source. -/
def fillTargets (source : String) (ids : List String) : List String :=
  ((ids.filter fun id => (Address.parse? id).isSome).map canonicalId).filter
    (· ≠ canonicalId source)

/-- Copies a cell to every other cell of a range, one after the other, and
counts them.  A range that is too large is refused before anything is written. -/
def fill (document : Document) (mode : RecalculationMode) (now : Instant)
    (source range : String) : Except RangeError Nat × Document :=
  match Range.expand (range.toList.map Char.toUpper) with
  | .error error => (.error error, document)
  | .ok ids =>
    let targets := fillTargets source ids
    (.ok targets.length,
      targets.foldl (fun document target => document.copy mode now source target) document)

/-- Evaluates every formula. -/
def recalculate (document : Document) (mode : RecalculationMode) (now : Instant) : Document :=
  { document with data := document.data.recalculate mode }.stamp now

/-! ## Looking -/

/-- The text that a cell shows, empty for a missing one. -/
def display (document : Document) (id : String) : String :=
  ((document.data.get? (canonicalId id)).map Cell.display).getD ""

/-- The value of a cell. -/
def value? (document : Document) (id : String) : Option String :=
  document.data.value? (canonicalId id)

/-- Whether one identifier stands before another when rows are read from the
top, each from the left; equal places count as before. -/
def readsBefore (first second : String) : Bool :=
  let first := Address.decode first.toList
  let second := Address.decode second.toList
  first.row < second.row || (first.row = second.row && first.column ≤ second.column)

/-- The cells that are not blank, in reading order. -/
def nonBlankCells (document : Document) : List (String × Cell) :=
  (document.data.toList.filter fun (_, cell) => !cell.isBlank).mergeSort
    fun first second => readsBefore first.1 second.1

end Document
end Worksheet
