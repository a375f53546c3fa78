import Worksheet.Numeral
import Worksheet.Text.Blank

namespace Worksheet

/-!
Dates of the Gregorian calendar, extended to all years before and after it.
A written date is year, month and day with hyphens between; blanks may stand
before each number, and a year with a sign may have any number of digits.
-/

/-- A day of the calendar. -/
structure CalendarDate where
  year : Int
  month : Nat
  day : Nat
deriving DecidableEq, Repr

namespace CalendarDate

/-- Every fourth year is a leap year, except the full centuries that four
hundred does not divide. -/
def isLeap (year : Int) : Bool :=
  year % 4 = 0 && (year % 100 ≠ 0 || year % 400 = 0)

/-- The number of days in a month. -/
def daysIn (year : Int) (month : Nat) : Nat :=
  if month = 2 then (if isLeap year then 29 else 28)
  else if month = 4 ∨ month = 6 ∨ month = 9 ∨ month = 11 then 30
  else 31

/-- The first year that has dates. -/
def firstYear : Int := -262143

/-- The last year that has dates. -/
def lastYear : Int := 262142

/-- Whether a date is in the calendar. -/
def isValid (date : CalendarDate) : Bool :=
  firstYear ≤ date.year && date.year ≤ lastYear &&
    1 ≤ date.month && date.month ≤ 12 && 1 ≤ date.day && date.day ≤ daysIn date.year date.month

/-- The day after a date. -/
def next (date : CalendarDate) : CalendarDate :=
  if date.day < daysIn date.year date.month then { date with day := date.day + 1 }
  else if date.month < 12 then ⟨date.year, date.month + 1, 1⟩
  else ⟨date.year + 1, 1, 1⟩

/-- The day before a date. -/
def previous (date : CalendarDate) : CalendarDate :=
  if 1 < date.day then { date with day := date.day - 1 }
  else if 1 < date.month then ⟨date.year, date.month - 1, daysIn date.year (date.month - 1)⟩
  else ⟨date.year - 1, 12, 31⟩

/-- The date a number of days after the first of January 1970.  Years are
counted from March, so that a leap day ends its year, in cycles of four
hundred years of 146097 days. -/
def ofDayNumber (days : Int) : CalendarDate :=
  let shifted := days + 719468
  let cycle := shifted / 146097
  let dayOfCycle := (shifted % 146097).toNat
  let yearOfCycle :=
    (dayOfCycle - dayOfCycle / 1460 + dayOfCycle / 36524 - dayOfCycle / 146096) / 365
  let dayOfYear := dayOfCycle - (365 * yearOfCycle + yearOfCycle / 4 - yearOfCycle / 100)
  let shiftedMonth := (5 * dayOfYear + 2) / 153
  let day := dayOfYear - (153 * shiftedMonth + 2) / 5 + 1
  let month := if shiftedMonth < 10 then shiftedMonth + 3 else shiftedMonth - 9
  let year : Int := yearOfCycle + cycle * 400
  ⟨if month ≤ 2 then year + 1 else year, month, day⟩

/-! ## Reading -/

/-- A number of at least one digit and at most the given width, after
blanks. -/
def takeNumber? (width : Nat) (text : List Char) : Option (Nat × List Char) :=
  let text := Text.trimStart text
  let digits := (text.take width).takeWhile Char.isDigit
  if digits = [] then none else some (Numeral.value digits, text.drop digits.length)

/-- A year: up to four digits, or a sign and any number of digits. -/
def takeYear? (text : List Char) : Option (Int × List Char) :=
  let unlimited (rest : List Char) : Option (Nat × List Char) :=
    let digits := rest.takeWhile Char.isDigit
    if digits = [] then none else some (Numeral.value digits, rest.drop digits.length)
  match Text.trimStart text with
  | '-' :: rest => (unlimited rest).map fun (year, rest) => (-(year : Int), rest)
  | '+' :: rest => (unlimited rest).map fun (year, rest) => ((year : Int), rest)
  | rest => (takeNumber? 4 rest).map fun (year, rest) => ((year : Int), rest)

/-- A text after the mark it begins with. -/
def takeMark? (mark : Char) (text : List Char) : Option (List Char) :=
  match text with
  | c :: rest => if c = mark then some rest else none
  | [] => none

/-- The date that a whole text is. -/
def parse? (text : List Char) : Option CalendarDate := do
  let (year, rest) ← takeYear? text
  let rest ← takeMark? '-' rest
  let (month, rest) ← takeNumber? 2 rest
  let rest ← takeMark? '-' rest
  let (day, rest) ← takeNumber? 2 rest
  let date : CalendarDate := ⟨year, month, day⟩
  if rest = [] ∧ date.isValid then some date else none

/-! ## Writing -/

/-- A year of four digits, or of at least four with a sign if it is negative
or above 9999. -/
def yearChars (year : Int) : List Char :=
  let digits := Numeral.padded 4 year.natAbs
  if year < 0 then '-' :: digits else if 9999 < year then '+' :: digits else digits

/-- A date with the month first and slashes between the numbers. -/
def slashed (date : CalendarDate) : List Char :=
  Numeral.ofNat date.month ++ '/' :: Numeral.ofNat date.day ++ '/' :: yearChars date.year

/-- A date with the year first and hyphens between the numbers. -/
def hyphenated (date : CalendarDate) : List Char :=
  yearChars date.year ++ '-' :: Numeral.padded 2 date.month ++
    '-' :: Numeral.padded 2 date.day

end CalendarDate
end Worksheet
