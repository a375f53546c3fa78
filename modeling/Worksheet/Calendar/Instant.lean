import Worksheet.Calendar.Date

namespace Worksheet

/-!
Instants in universal time.  They are written as RFC 3339 has it, in
universal time and with the fewest of zero, three, six or nine fraction
digits that are exact.  The reader is wider: it takes any offset from
universal time, blanks between the parts, and one-digit numbers.
-/

/-- A moment: a day, the second of the day, and nanoseconds.  During a leap
second the nanoseconds run on above a thousand million. -/
structure Instant where
  date : CalendarDate
  second : Nat
  nanosecond : Nat
deriving DecidableEq, Repr

namespace Instant

/-- Nanoseconds in a second. -/
def nanosPerSecond : Nat := 1000000000

/-- Seconds in a day. -/
def secondsPerDay : Nat := 86400

/-- The instant a number of seconds after the start of 1970. -/
def ofUnixTime (seconds : Int) (nanosecond : Nat) : Instant :=
  { date := .ofDayNumber (seconds / secondsPerDay)
    second := (seconds % secondsPerDay).toNat
    nanosecond }

/-! ## Reading -/

/-- The nanoseconds that fraction digits stand for; the tenth digit and those
after it do not count. -/
def fractionNanos (digits : List Char) : Nat :=
  Numeral.value ((digits ++ List.replicate 9 '0').take 9)

/-- A time of day: its second and its nanosecond. -/
def takeTime? (text : List Char) : Option ((Nat × Nat) × List Char) := do
  let (hour, rest) ← CalendarDate.takeNumber? 2 text
  let rest ← CalendarDate.takeMark? ':' (Text.trimStart rest)
  let (minute, rest) ← CalendarDate.takeNumber? 2 rest
  let rest ← CalendarDate.takeMark? ':' (Text.trimStart rest)
  let (second, rest) ← CalendarDate.takeNumber? 2 rest
  let (nanos, rest) ← match rest with
    | '.' :: rest =>
      let digits := rest.takeWhile Char.isDigit
      if digits = [] then none else some (fractionNanos digits, rest.drop digits.length)
    | _ => some (0, rest)
  if 23 < hour ∨ 59 < minute ∨ 60 < second then none
  else
    let leap := if second = 60 then nanosPerSecond else 0
    some ((hour * 3600 + minute * 60 + min second 59, nanos + leap), rest)

/-- The value of two digits at the beginning of a text. -/
def takeTwoDigits? : List Char → Option (Nat × List Char)
  | tens :: ones :: rest =>
    if tens.isDigit && ones.isDigit then some (Numeral.value [tens, ones], rest) else none
  | _ => none

/-- Whether a text begins with the name of universal time, in any case. -/
def beginsUniversal (text : List Char) : Bool :=
  (text.take 3).map Char.toUpper = ['U', 'T', 'C']

/-- An offset from universal time in seconds.  Colons and blanks may stand
between its hours and its minutes. -/
def takeOffset? (text : List Char) : Option (Int × List Char) :=
  if beginsUniversal text then some (0, text.drop 3)
  else match text with
    | [] => none
    | c :: rest =>
      if c = 'Z' ∨ c = 'z' then some (0, rest)
      else if c = '+' ∨ c = '-' ∨ c = '−' then do
        let (hours, rest) ← takeTwoDigits? rest
        let (minutes, rest) ← takeTwoDigits? (rest.dropWhile fun c => c = ':' || Text.isBlank c)
        let seconds : Int := hours * 3600 + minutes * 60
        if minutes < 60 ∧ seconds < secondsPerDay then
          some (if c = '+' then seconds else -seconds, rest)
        else none
      else none

/-- A local time moved to universal time.  An offset is less than a day, so
the date moves by one day at most. -/
def ofLocal (date : CalendarDate) (second nanosecond : Nat) (offset : Int) : Instant :=
  let shifted := (second : Int) - offset
  if shifted < 0 then ⟨date.previous, (shifted + secondsPerDay).toNat, nanosecond⟩
  else if secondsPerDay ≤ shifted then ⟨date.next, (shifted - secondsPerDay).toNat, nanosecond⟩
  else ⟨date, shifted.toNat, nanosecond⟩

/-- The instant that a whole text is. -/
def parse? (text : List Char) : Option Instant := do
  let (year, rest) ← CalendarDate.takeYear? text
  let rest ← CalendarDate.takeMark? '-' (Text.trimStart rest)
  let (month, rest) ← CalendarDate.takeNumber? 2 rest
  let rest ← CalendarDate.takeMark? '-' (Text.trimStart rest)
  let (day, rest) ← CalendarDate.takeNumber? 2 rest
  let rest ← match rest with
    | c :: rest => if c = 'T' ∨ c = 't' ∨ c = ' ' then some rest else none
    | [] => none
  let ((second, nanosecond), rest) ← takeTime? rest
  let (offset, rest) ← takeOffset? (Text.trimStart rest)
  let date : CalendarDate := ⟨year, month, day⟩
  let instant := ofLocal date second nanosecond offset
  if Text.trimStart rest = [] ∧ date.isValid ∧ instant.date.isValid then some instant else none

/-! ## Writing -/

/-- The fraction digits of a second, with their point. -/
def fractionChars (nanos : Nat) : List Char :=
  if nanos = 0 then []
  else if nanos % 1000000 = 0 then '.' :: Numeral.padded 3 (nanos / 1000000)
  else if nanos % 1000 = 0 then '.' :: Numeral.padded 6 (nanos / 1000)
  else '.' :: Numeral.padded 9 nanos

/-- The characters of an instant. -/
def chars (instant : Instant) : List Char :=
  let second := instant.second % 60 + instant.nanosecond / nanosPerSecond
  instant.date.hyphenated ++ 'T' :: Numeral.padded 2 (instant.second / 3600) ++
    ':' :: Numeral.padded 2 (instant.second / 60 % 60) ++
    ':' :: Numeral.padded 2 second ++
    fractionChars (instant.nanosecond % nanosPerSecond) ++ ['Z']

/-- The text of an instant. -/
def text (instant : Instant) : String :=
  String.ofList instant.chars

end Instant
end Worksheet
