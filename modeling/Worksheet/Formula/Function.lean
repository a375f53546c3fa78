namespace Worksheet

/-!
The catalogue of functions.  A formula is a call of one of them.
-/

/-- The functions that a formula may call. -/
inductive SheetFunction where
  | sum
  | average
  | max
  | min
  | count
  | stdev
  | product
  | power
  | round
  | trim
  | upper
  | lower
  | removeDuplicates
  | findAndReplace
  | concatenate
deriving DecidableEq, Repr

namespace SheetFunction

/-- The catalogue, in order. -/
def all : List SheetFunction :=
  [sum, average, max, min, count, stdev, product, power, round, trim, upper, lower,
    removeDuplicates, findAndReplace, concatenate]

/-- The name under which a function is called. -/
def name : SheetFunction → String
  | sum => "SUM"
  | average => "AVERAGE"
  | max => "MAX"
  | min => "MIN"
  | count => "COUNT"
  | stdev => "STDEV"
  | product => "PRODUCT"
  | power => "POWER"
  | round => "ROUND"
  | trim => "TRIM"
  | upper => "UPPER"
  | lower => "LOWER"
  | removeDuplicates => "REMOVE_DUPLICATES"
  | findAndReplace => "FIND_AND_REPLACE"
  | concatenate => "CONCATENATE"

/-- What a function does, for a reader. -/
def description : SheetFunction → String
  | sum => "Sum of numeric values"
  | average => "Arithmetic mean"
  | max => "Largest numeric value"
  | min => "Smallest numeric value"
  | count => "Count of numeric cells"
  | stdev => "Sample standard deviation"
  | product => "Product of numeric values"
  | power => "Base raised to exponent"
  | round => "Fixed-point rounding"
  | trim => "Strip surrounding whitespace"
  | upper => "Upper-case text"
  | lower => "Lower-case text"
  | removeDuplicates => "Distinct values joined by commas"
  | findAndReplace => "Replace every occurrence of a literal"
  | concatenate => "Join values with no separator"

/-- The function with a name, in any mixture of ASCII upper and lower case. -/
def ofName? (name : List Char) : Option SheetFunction :=
  all.find? fun function => function.name.toList = name.map Char.toUpper

/-- The wording for a name that is not in the catalogue. -/
def unknownMessage (name : String) : String :=
  "Unknown function: " ++ name

theorem mem_all (function : SheetFunction) : function ∈ all := by
  cases function <;> decide

end SheetFunction
end Worksheet
