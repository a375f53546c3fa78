import Worksheet.Cell.Basic
import Worksheet.Distinct
import Worksheet.Formula.Function
import Worksheet.Number
import Worksheet.Range
import Worksheet.Text.Case
import Worksheet.Text.Scan

namespace Worksheet

/-!
The value of a formula.  The text after the equals sign is a function name,
an opening parenthesis and arguments up to the last closing parenthesis.
Functions of ranges take the numbers or texts of the cells they cover;
functions of single cells take operands between commas.  What goes wrong is
an error, whose token becomes the value of the cell.
-/

/-- Why a formula has no proper value. -/
inductive FormulaError where
  /-- An operand is missing or no number, or a range is too large. -/
  | fault
  /-- The text calls no function of the catalogue. -/
  | invalid
  /-- There is nothing to summarise. -/
  | notAvailable
  /-- The mean of no numbers. -/
  | divisionByZero
  /-- The cell reads itself through other cells. -/
  | circular
deriving DecidableEq, Repr

namespace FormulaError

/-- Every error, in the order of declaration. -/
def all : List FormulaError := [fault, invalid, notAvailable, divisionByZero, circular]

/-- The token that stands for an error in a cell. -/
def token : FormulaError → String
  | fault => "#ERROR!"
  | invalid => "#INVALID!"
  | notAvailable => "#N/A"
  | divisionByZero => "#DIV/0!"
  | circular => "#CIRCULAR!"

/-- The error whose token a value is. -/
def ofToken? (value : String) : Option FormulaError :=
  all.find? (·.token = value)

theorem ofToken?_token (error : FormulaError) : ofToken? error.token = some error := by
  cases error <;> decide

end FormulaError

/-- Where the values of cells come from. -/
abbrev Lookup := String → Option String

namespace Formula

/-! ## Arguments -/

/-- The identifier that an operand names. -/
def operandId (operand : List Char) : String :=
  String.ofList ((Reference.dropDollars (Text.trim operand)).map Char.toUpper)

/-- The cells of a range argument. -/
def rangeCells (arguments : List Char) : Except FormulaError (List String) :=
  match Range.expand (arguments.map Char.toUpper) with
  | .ok ids => .ok ids
  | .error _ => .error .fault

/-- The numbers in the cells of a range argument; cells without one do not
count. -/
def numbers (lookup : Lookup) (arguments : List Char) : Except FormulaError (List Float) := do
  let ids ← rangeCells arguments
  return ids.filterMap fun id => (lookup id).bind Number.parse?

/-- The texts in the cells of a range argument. -/
def texts (lookup : Lookup) (arguments : List Char) : Except FormulaError (List String) := do
  let ids ← rangeCells arguments
  return ids.filterMap lookup

/-- The number in the cell that an operand names. -/
def numberOperand (lookup : Lookup) (operand : Option (List Char)) :
    Except FormulaError Float :=
  match operand with
  | none => .error .fault
  | some operand =>
    let id := operandId operand
    if (Address.parse? id).isNone then .error .fault
    else match (lookup id).bind Number.parse? with
      | some number => .ok number
      | none => .error .fault

theorem eq_fault_of_numberOperand {lookup : Lookup} {operand : Option (List Char)}
    {error : FormulaError} (fails : numberOperand lookup operand = .error error) :
    error = .fault := by
  unfold numberOperand at fails
  split at fails
  · exact (Except.error.inj fails).symm
  · simp only at fails
    split at fails
    · exact (Except.error.inj fails).symm
    · split at fails
      · cases fails
      · exact (Except.error.inj fails).symm

/-- The text in the cell that an operand names, empty if there is none. -/
def textOperand (lookup : Lookup) (operand : List Char) : List Char :=
  ((lookup (operandId operand)).getD "").toList

/-- Whether a character may enclose a literal. -/
def isQuote (c : Char) : Bool :=
  c = '"' || c = '\''

/-- A literal without one quote at its beginning and one at its end. -/
def unquote (literal : List Char) : List Char :=
  let opened := match literal with
    | c :: rest => if isQuote c then rest else literal
    | [] => []
  match opened.getLast? with
  | some c => if isQuote c then opened.dropLast else opened
  | none => opened

/-! ## Functions of numbers -/

/-- The sum of numbers, from left to right. -/
def sum (numbers : List Float) : Float :=
  numbers.foldl (· + ·) 0

/-- The arithmetic mean of numbers. -/
def mean (numbers : List Float) : Float :=
  sum numbers / numbers.length.toFloat

/-- The greater of two numbers. -/
def greater (first second : Float) : Float :=
  if first < second then second else first

/-- The lesser of two numbers. -/
def lesser (first second : Float) : Float :=
  if second < first then second else first

/-- The sample standard deviation of at least two numbers. -/
def deviation (numbers : List Float) : Float :=
  let centre := mean numbers
  let squares := numbers.map fun number => (number - centre) * (number - centre)
  (sum squares / (numbers.length - 1).toFloat).sqrt

/-- The number of places that a number asks for once its fraction is cut
off, if there are at most a hundred. -/
def places? (number : Float) : Option Nat :=
  if -1 < number ∧ number < 101 then some number.toUInt64.toNat else none

/-- What is left of a list when its members are combined in pairs from the
left. -/
def combine? (choose : Float → Float → Float) : List Float → Except FormulaError Float
  | [] => .error .notAvailable
  | first :: rest => .ok (rest.foldl choose first)

/-! ## Calls -/

/-- The replacement of a literal in the text of a cell.  Both literals are
raised to upper case, and an empty one is found nowhere. -/
def findAndReplace (lookup : Lookup) (arguments : List Char) : Except FormulaError String :=
  match (Text.split ',' arguments).map Text.trim with
  | [target, find, replacement] =>
    let value := textOperand lookup target
    let find := Text.upper (unquote find)
    if value = [] ∨ find = [] then .ok (String.ofList value)
    else .ok (String.ofList
      (Text.replaceAll find (Text.upper (unquote replacement)) value))
  | _ => .error .fault

/-- The result of a function for the text of its arguments. -/
def call (function : SheetFunction) (lookup : Lookup) (arguments : List Char) :
    Except FormulaError String := do
  let operands := Text.split ',' arguments
  match function with
  | .sum => return Number.text (sum (← numbers lookup arguments))
  | .average =>
    let found ← numbers lookup arguments
    if found.isEmpty then throw .divisionByZero else return Number.text (mean found)
  | .max => return Number.text (← combine? greater (← numbers lookup arguments))
  | .min => return Number.text (← combine? lesser (← numbers lookup arguments))
  | .count => return Numeral.text (← numbers lookup arguments).length
  | .stdev =>
    let found ← numbers lookup arguments
    if found.length < 2 then throw .notAvailable else return Number.text (deviation found)
  | .product =>
    let found ← numbers lookup arguments
    return Number.text (if found.isEmpty then 0 else found.foldl (· * ·) 1)
  | .power =>
    let base ← numberOperand lookup operands[0]?
    let exponent ← numberOperand lookup operands[1]?
    return Number.text (base.pow exponent)
  | .round =>
    let number ← numberOperand lookup operands[0]?
    match places? (← numberOperand lookup operands[1]?) with
    | some places => return Number.fixed number places
    | none => throw .fault
  | .trim => return String.ofList (Text.trim (textOperand lookup arguments))
  | .upper => return String.ofList (Text.upper (textOperand lookup arguments))
  | .lower => return String.ofList (Text.lower (textOperand lookup arguments))
  | .removeDuplicates => return ",".intercalate (distinct (← texts lookup arguments))
  | .findAndReplace => findAndReplace lookup arguments
  | .concatenate => return String.join (← texts lookup arguments)

/-- The function and the arguments that the body of a formula calls. -/
def readCall? (body : List Char) : Option (SheetFunction × List Char) := do
  let (name, rest) ← Text.cutAtFirst? '(' (Text.trim body)
  return (← SheetFunction.ofName? name, Text.beforeLast ')' rest)

/-- The value of a formula, or why it has none.  A text that is no formula is
its own value. -/
def evaluate? (formula : String) (lookup : Lookup) : Except FormulaError String :=
  if isFormula formula then
    match readCall? (formula.toList.drop 1) with
    | some (function, arguments) => call function lookup arguments
    | none => .error .invalid
  else .ok formula

/-- The value of a formula, with the token of an error in its place. -/
def evaluate (formula : String) (lookup : Lookup) : String :=
  match evaluate? formula lookup with
  | .ok value => value
  | .error error => error.token

end Formula
end Worksheet
