import Worksheet.Calendar.Instant
import Worksheet.Grid

namespace Worksheet

/-!
Documents: a grid with what belongs to its presentation.  A draft is a
document that has no number yet, and a patch changes the parts of a document
that it names.  Every change of a document is stamped with the time at which
it is made.
-/

/-- Widths of columns or heights of rows, by column letters or row number. -/
abbrev Dimensions := Std.ExtTreeMap String Float

/-- A spreadsheet document. -/
structure Document where
  id : UInt64
  name : Option String := none
  data : Grid := .empty
  columnWidths : Option Dimensions := none
  rowHeights : Option Dimensions := none
  lastModified : Option Instant := none

/-- What a new document starts with. -/
structure DocumentDraft where
  name : Option String := none
  data : Grid := .empty
  columnWidths : Option Dimensions := none
  rowHeights : Option Dimensions := none

/-- Parts of a document that replace its own. -/
structure DocumentPatch where
  name : Option String := none
  data : Option Grid := none
  columnWidths : Option Dimensions := none
  rowHeights : Option Dimensions := none

namespace Document

/-- A draft as the document with the given number. -/
def ofDraft (id : UInt64) (draft : DocumentDraft) : Document :=
  { id
    name := draft.name
    data := draft.data
    columnWidths := draft.columnWidths
    rowHeights := draft.rowHeights }

/-- The name under which a document is listed: its own, or one made from its
number. -/
def displayName (document : Document) : String :=
  let name := document.name.getD ""
  if name.isEmpty then "Spreadsheet " ++ Numeral.text document.id.toNat else name

/-- A document stamped with the time of a change. -/
def stamp (document : Document) (now : Instant) : Document :=
  { document with lastModified := some now }

/-- A document with the parts of a patch in place of its own. -/
def patch (document : Document) (now : Instant) (patch : DocumentPatch) : Document :=
  stamp
    { document with
      name := patch.name <|> document.name
      data := patch.data.getD document.data
      columnWidths := patch.columnWidths <|> document.columnWidths
      rowHeights := patch.rowHeights <|> document.rowHeights }
    now

end Document
end Worksheet
