import Worksheet.Text.Blank

namespace Worksheet

/-!
The two ways in which a sheet follows an edit.
-/

/-- How far an edit is followed. -/
inductive RecalculationMode where
  /-- The cell and the formulas that mention it, once. -/
  | direct
  /-- All cells that depend on it, in the order of their dependencies. -/
  | full
deriving DecidableEq, Repr

namespace RecalculationMode

instance : Inhabited RecalculationMode := ⟨direct⟩

/-- The name of a mode. -/
def name : RecalculationMode → String
  | direct => "direct"
  | full => "full"

/-- A name without blanks around it and in ASCII lower case. -/
def normalize (text : String) : String :=
  String.ofList ((Text.trim text.toList).map Char.toLower)

/-- The mode with a name. -/
def ofName? (text : String) : Option RecalculationMode :=
  let name := normalize text
  if name = direct.name then some direct else if name = full.name then some full else none

/-- The wording for a name that is no mode. -/
def unknownMessage (text : String) : String :=
  "Unknown recalc mode: " ++ normalize text ++ " (expected direct or full)"

end RecalculationMode
end Worksheet
