import Std.Data.HashMap
import Worksheet.Document.Basic

namespace Worksheet

/-!
Workbooks: documents under serial numbers.  A new document gets the next
number, counted from one, and keeps it; documents are never taken out.  They are
kept in no order, and the listing brings them into that of their numbers.
-/

/-- Documents by number, and the number that the next one gets. -/
structure Workbook where
  documents : Std.HashMap UInt64 Document := ∅
  next : UInt64 := 1

namespace Workbook

/-- A workbook without documents. -/
def empty : Workbook := {}

/-- The number of documents. -/
def size (workbook : Workbook) : Nat :=
  workbook.documents.size

/-- Adds a document made from a draft. -/
def create (workbook : Workbook) (draft : DocumentDraft) : Workbook × Document :=
  let document := Document.ofDraft workbook.next draft
  ({ documents := workbook.documents.insert workbook.next document
     next := workbook.next + 1 }, document)

/-- The document with a number. -/
def get? (workbook : Workbook) (id : UInt64) : Option Document :=
  workbook.documents[id]?

/-- A request for a document that is not there. -/
structure NotFound where
  id : UInt64
deriving DecidableEq, Repr

/-- The wording of the error. -/
def NotFound.message (error : NotFound) : String :=
  "Spreadsheet not found: " ++ Numeral.text error.id.toNat

/-- Applies a patch to the document with a number. -/
def update (workbook : Workbook) (now : Instant) (id : UInt64) (patch : DocumentPatch) :
    Except NotFound (Workbook × Document) :=
  match workbook.documents[id]? with
  | some document =>
    let patched := document.patch now patch
    .ok ({ workbook with documents := workbook.documents.insert id patched }, patched)
  | none => .error ⟨id⟩

/-- The number and the name of each document, in the order of the numbers. -/
def list (workbook : Workbook) : List (UInt64 × String) :=
  (workbook.documents.toList.map fun (_, document) =>
    (document.id, document.displayName)).mergeSort fun first second => first.1 ≤ second.1

end Workbook
end Worksheet
