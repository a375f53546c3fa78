import Worksheet.Document.Json
import Worksheet.Json.Reader

namespace Worksheet
namespace Document

/-!
Documents as files.  A document is saved as indented JSON with a line end
behind it, and loaded from any JSON text of the right form that is not too
large.
-/

/-- The most bytes that a document file may have. -/
def maxFileBytes : Nat := 16777216

/-- The text under which a document is saved. -/
def save (document : Document) : String :=
  document.toJson.indented ++ "\n"

/-- The document that a saved text describes. -/
def load? (text : String) : Option Document :=
  (Json.parse? text.toList).bind ofJson?

/-- The wording for a file that is too large. -/
def tooLargeMessage (path : String) (bytes : Nat) : String :=
  "Refusing to read " ++ path ++ ": document too large (" ++ Numeral.text bytes ++
    " bytes, max " ++ Numeral.text maxFileBytes ++ ")"

end Document
end Worksheet
