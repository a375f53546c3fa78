import Worksheet.Numeral
import Worksheet.Text.Blank

namespace Worksheet

/-!
Cell addresses.  Columns are written in letters, a numeral in bijective base
twenty-six: there is no zero letter, so `AA` follows `Z`.  Rows are decimal.
Both are counted from one.  Two readers exist: a strict one, which takes a
whole identifier or nothing, and a permissive one, which makes an address of
any text and is the basis of canonical identifiers.
-/

/-- The number of the last column and of the last row. -/
def lastIndex : Nat := 4294967295

/-- The place of a cell: column and row, each counted from one. -/
structure Address where
  column : Nat
  row : Nat
deriving DecidableEq, Repr

/-! ## Column letters -/

namespace Column

/-- The letter with the given rank, zero for `A`. -/
def letter (rank : Nat) : Char :=
  Char.ofNat (65 + rank)

/-- The letters of a column; none for zero. -/
def letters (column : Nat) : List Char :=
  if column = 0 then []
  else letters ((column - 1) / 26) ++ [letter ((column - 1) % 26)]
decreasing_by omega

/-- What a letter of either case counts in its place, one for `A`. -/
def weight (c : Char) : Nat :=
  c.toUpper.toNat - 64

/-- The number that a sequence of letters stands for. -/
def value (text : List Char) : Nat :=
  text.foldl (fun total c => total * 26 + weight c) 0

/-- A column number, unless it is beyond the last one. -/
def bounded? (number : Nat) : Option Nat :=
  if number ≤ lastIndex then some number else none

/-- The column with one more letter behind its own, as long as no step leaves
the sheet. -/
def addLetter? (column : Nat) (c : Char) : Option Nat :=
  if c.isAlpha then do
    let shifted ← bounded? (column * 26)
    bounded? (shifted + weight c)
  else none

/-- The column named by letters of either case, if it is on the sheet. -/
def ofLetters? (text : List Char) : Option Nat :=
  if text = [] then none else text.foldlM addLetter? 0

/-- A column number, or the last one in place of one beyond it. -/
def clamp (number : Nat) : Nat :=
  min number lastIndex

/-- The number that a sequence of letters stands for, held at the last column
after every step. -/
def clampedValue (text : List Char) : Nat :=
  text.foldl (fun column c => clamp (clamp (column * 26) + weight c)) 0

theorem value_append_singleton (text : List Char) (c : Char) :
    value (text ++ [c]) = value text * 26 + weight c := by
  simp [value]

/-- More letters never make a number smaller. -/
theorem le_foldl_weight (text : List Char) (total : Nat) :
    total ≤ text.foldl (fun total c => total * 26 + weight c) total := by
  induction text generalizing total with
  | nil => exact Nat.le_refl _
  | cons c text ih => exact Nat.le_trans (by omega) (ih (total * 26 + weight c))

theorem addLetter?_eq_ite (column : Nat) (c : Char) :
    addLetter? column c =
      if c.isAlpha ∧ column * 26 + weight c ≤ lastIndex then some (column * 26 + weight c)
      else none := by
  unfold addLetter? bounded?
  by_cases alpha : c.isAlpha
  · rw [if_pos alpha]
    by_cases shifted : column * 26 ≤ lastIndex
    · simp [shifted, alpha]
    · have beyond : ¬column * 26 + weight c ≤ lastIndex := by omega
      simp [shifted, beyond]
  · simp [alpha]

theorem foldlM_addLetter? (text : List Char) {total : Nat} (onSheet : total ≤ lastIndex) :
    text.foldlM addLetter? total =
      if text.all Char.isAlpha ∧
          text.foldl (fun total c => total * 26 + weight c) total ≤ lastIndex then
        some (text.foldl (fun total c => total * 26 + weight c) total)
      else none := by
  induction text generalizing total with
  | nil => simp [onSheet]
  | cons c text ih =>
    rw [List.foldlM_cons, addLetter?_eq_ite, List.foldl_cons, List.all_cons]
    by_cases step : c.isAlpha ∧ total * 26 + weight c ≤ lastIndex
    · rw [if_pos step, step.1, Bool.true_and]
      exact ih step.2
    · -- What is beyond the sheet after one letter stays there after all of them.
      have grows := le_foldl_weight text (total * 26 + weight c)
      have final : ¬((c.isAlpha && text.all Char.isAlpha) = true ∧
          text.foldl (fun total c => total * 26 + weight c) (total * 26 + weight c) ≤
            lastIndex) := by
        rintro ⟨alpha, within⟩
        exact step ⟨(Bool.and_eq_true_iff.mp alpha).1, Nat.le_trans grows within⟩
      rw [if_neg step, if_neg final]
      rfl

/-- Letters are refused only if there are none, if another character is among
them, or if their number is beyond the sheet. -/
theorem ofLetters?_eq_ite (text : List Char) :
    ofLetters? text =
      if text ≠ [] ∧ text.all Char.isAlpha ∧ value text ≤ lastIndex then some (value text)
      else none := by
  unfold ofLetters?
  by_cases empty : text = []
  · simp [empty]
  · rw [if_neg empty, foldlM_addLetter? text (Nat.zero_le _)]
    simp only [ne_eq, empty, not_false_eq_true, true_and]
    rfl

/-- Holding the number back after every step is the same as doing so once. -/
theorem clampedValue_eq_min (text : List Char) :
    clampedValue text = min (value text) lastIndex := by
  have held (total : Nat) :
      text.foldl (fun column c => clamp (clamp (column * 26) + weight c)) (clamp total) =
        clamp (text.foldl (fun total c => total * 26 + weight c) total) := by
    induction text generalizing total with
    | nil => rfl
    | cons c text ih =>
      have step : clamp (clamp (clamp total * 26) + weight c) = clamp (total * 26 + weight c) := by
        simp only [clamp]
        omega
      rw [List.foldl_cons, List.foldl_cons, step]
      exact ih _
  exact held 0

theorem weight_letter {rank : Nat} (small : rank < 26) : weight (letter rank) = rank + 1 := by
  have cases : ∀ n : Fin 26, weight (letter n) = n + 1 := by decide
  exact cases ⟨rank, small⟩

/-- Reading the letters of a column gives the column back. -/
@[simp] theorem value_letters (column : Nat) : value (letters column) = column := by
  fun_induction letters column with
  | case1 => rfl
  | case2 column positive ih =>
    rw [value_append_singleton, ih, weight_letter (Nat.mod_lt _ (by decide))]
    omega

end Column

/-! ## Rows -/

/-- The row that digits name, if it is on the sheet. -/
def Row.ofDigits? (digits : List Char) : Option Nat :=
  let row := Numeral.value digits
  if 0 < row ∧ row ≤ lastIndex then some row else none

namespace Address

/-! ## Writing and reading -/

/-- The characters of an address: letters, then digits. -/
def chars (address : Address) : List Char :=
  Column.letters address.column ++ Numeral.ofNat address.row

/-- The identifier of the cell at an address. -/
def id (address : Address) : String :=
  String.ofList address.chars

/-- The strict reading: letters of either case and digits, with both parts on
the sheet. -/
def parse? (id : String) : Option Address :=
  let letters := id.toList.takeWhile Char.isAlpha
  let digits := id.toList.dropWhile Char.isAlpha
  if digits.all Char.isDigit then do
    let column ← Column.ofLetters? letters
    let row ← Row.ofDigits? digits
    return ⟨column, row⟩
  else none

/-- The permissive reading: the first run of upper-case letters and the first
run of digits, whatever stands around them.  A missing part counts as one, a
column beyond the sheet as the last, and a row off the sheet as the first. -/
def decode (text : List Char) : Address :=
  let letters := (text.dropWhile (!·.isUpper)).takeWhile Char.isUpper
  let digits := (text.dropWhile (!·.isDigit)).takeWhile Char.isDigit
  { column := if letters = [] then 1 else Column.clampedValue letters
    row := (Row.ofDigits? digits).getD 1 }

/-- The address that a text names once blanks are removed and letters raised
to upper case. -/
def ofInput (text : String) : Address :=
  decode ((Text.trim text.toList).map Char.toUpper)

/-! ## Shifting -/

/-- An index moved by a distance, or left where it is if that would be off
the sheet. -/
def shiftIndex (index : Nat) (distance : Int) : Nat :=
  let moved := (index : Int) + distance
  if 0 < moved ∧ moved ≤ (lastIndex : Int) then moved.toNat else index

/-- An address moved by columns and rows. -/
def shift (address : Address) (columns rows : Int) : Address :=
  ⟨shiftIndex address.column columns, shiftIndex address.row rows⟩

end Address

/-- The one spelling under which a cell's content is kept. -/
def canonicalId (id : String) : String :=
  (Address.ofInput id).id

end Worksheet
