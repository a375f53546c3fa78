import Worksheet.Calendar.Date
import Worksheet.Text.DecimalDigit

namespace Worksheet

/-!
What kind of content a text is.  Numbers have the form of an optional minus,
digits, an optional point and digits; the digits may be those of any script
as long as one is ASCII.  Dates have the form of four, two and two digits
between hyphens, and must be in the calendar.
-/

/-- The declared type of a cell's content. -/
inductive ContentType where
  | text
  | number
  | date
  | boolean
deriving DecidableEq, Repr

namespace ContentType

/-- Every type, in the order of declaration. -/
def all : List ContentType := [.text, .number, .date, .boolean]

/-- The name of a type in documents. -/
def name : ContentType → String
  | text => "text"
  | number => "number"
  | date => "date"
  | boolean => "boolean"

/-- The type with a name. -/
def ofName? (name : String) : Option ContentType :=
  all.find? (·.name = name)

end ContentType

/-- A text that has the form of a date but is none. -/
inductive ContentError where
  | invalidDate
deriving DecidableEq, Repr

/-- The wording of the error. -/
def ContentError.message : ContentError → String
  | invalidDate => "Invalid date format. Use YYYY-MM-DD"

namespace ContentType

/-- Whether a text has the form of a number. -/
def isNumberForm (text : List Char) : Bool :=
  let unsigned := if text.head? = some '-' then text.drop 1 else text
  let rest := unsigned.dropWhile Text.isDecimalDigit
  let fraction := if rest.head? = some '.' then rest.drop 1 else rest
  fraction.all Text.isDecimalDigit

/-- Whether a text has the form of a date. -/
def isDateForm (text : List Char) : Bool :=
  text.length = 10 &&
    (text.zip "dddd-dd-dd".toList).all fun (c, form) =>
      if form = 'd' then Text.isDecimalDigit c else c = form

/-- Whether a text is a word in any mixture of ASCII upper and lower case. -/
def isWord (word : String) (text : List Char) : Bool :=
  text.map Char.toLower = word.toList

/-- The type of a text, unless it is a malformed date. -/
def classify (raw : String) : Except ContentError ContentType :=
  let text := raw.toList
  if isNumberForm text && text.any Char.isDigit then .ok .number
  else if isDateForm text then
    match CalendarDate.parse? text with
    | some _ => .ok .date
    | none => .error .invalidDate
  else if isWord "true" text || isWord "false" text then .ok .boolean
  else .ok .text

/-- The type of a text; a malformed date is a text. -/
def infer (raw : String) : ContentType :=
  match classify raw with
  | .ok type => type
  | .error _ => .text

end ContentType
end Worksheet
