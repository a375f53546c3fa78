import Worksheet.Proofs.Formula.Shift
import Worksheet.Proofs.Reference.Spelling

namespace Worksheet

/-!
Shifting twice.  A reference whose free parts stay on the sheet is moved by the
sum of two distances, and what is printed after the first move is read back for
the second.  Since no token is made, lost or cut on the way, a formula shifted
twice is the formula shifted once by the sum, and shifting back restores it.
-/

/-! ## Addresses and references -/

namespace Address

variable {index : Nat} {first second : Int}

/-- Only the first and the last place have to be on the sheet. -/
theorem shiftIndex_shiftIndex (once : 0 < index + first ∧ index + first ≤ lastIndex)
    (twice : 0 < index + (first + second) ∧ index + (first + second) ≤ lastIndex) :
    shiftIndex (shiftIndex index first) second = shiftIndex index (first + second) := by
  have moved := coe_shiftIndex once
  have movedOn : (shiftIndex (shiftIndex index first) second : Int) =
      shiftIndex index first + second := coe_shiftIndex (by omega)
  have movedAtOnce := coe_shiftIndex twice
  omega

end Address

namespace Reference

/-- Whether the free parts of a reference are on the sheet after a move. -/
structure Movable (columns rows : Int) (reference : Reference) : Prop where
  column : reference.columnFixed = false →
    0 < reference.address.column + columns ∧ reference.address.column + columns ≤ lastIndex
  row : reference.rowFixed = false →
    0 < reference.address.row + rows ∧ reference.address.row + rows ≤ lastIndex

instance (columns rows : Int) (reference : Reference) :
    Decidable (reference.Movable columns rows) :=
  decidable_of_iff
    ((reference.columnFixed = false →
        0 < reference.address.column + columns ∧ reference.address.column + columns ≤ lastIndex) ∧
      (reference.rowFixed = false →
        0 < reference.address.row + rows ∧ reference.address.row + rows ≤ lastIndex))
    ⟨fun parts => ⟨parts.1, parts.2⟩, fun movable => ⟨movable.column, movable.row⟩⟩

variable {reference : Reference} {columns rows moreColumns moreRows : Int}

theorem movable_zero (onSheet : reference.address.OnSheet) : reference.Movable 0 0 := by
  have column := onSheet.column
  have row := onSheet.row
  unfold IsIndex at column row
  exact ⟨fun _ => by omega, fun _ => by omega⟩

theorem shift_shift (once : reference.Movable columns rows)
    (twice : reference.Movable (columns + moreColumns) (rows + moreRows)) :
    (reference.shift columns rows).shift moreColumns moreRows =
      reference.shift (columns + moreColumns) (rows + moreRows) := by
  have part {isFixed : Bool} {index : Nat} {first second : Int}
      (once : isFixed = false → 0 < index + first ∧ index + first ≤ lastIndex)
      (twice : isFixed = false → 0 < index + (first + second) ∧
        index + (first + second) ≤ lastIndex) :
      Address.shiftIndex (Address.shiftIndex index (if isFixed then 0 else first))
          (if isFixed then 0 else second) =
        Address.shiftIndex index (if isFixed then 0 else first + second) := by
    cases isFixed with
    | true => exact Address.shiftIndex_zero _
    | false => exact Address.shiftIndex_shiftIndex (once rfl) (twice rfl)
  have column := part once.column twice.column
  have row := part once.row twice.row
  exact congrArg₂ (fun column row => { reference with address := ⟨column, row⟩ }) column row

end Reference

namespace Formula

open Reference (IsToken keepsShape_shiftToken)

variable {columns rows moreColumns moreRows : Int} {token : List Char}

/-! ## Tokens -/

theorem shiftToken_zero (isToken : IsToken token)
    (noZero : ∀ reference, Reference.ofChars? token = some reference →
      token.find? Char.isDigit ≠ some '0') :
    shiftToken 0 0 token = token := by
  unfold shiftToken
  cases accepted : Reference.ofChars? token with
  | none => rfl
  | some reference =>
    change (reference.shift 0 0).chars = token
    rw [Reference.shift_zero]
    exact (Reference.chars_of_ofChars? isToken (noZero reference accepted) accepted).1

theorem shiftToken_shiftToken (isToken : IsToken token)
    (movable : ∀ reference, Reference.ofChars? token = some reference →
      token.find? Char.isDigit ≠ some '0' ∧ reference.Movable columns rows ∧
        reference.Movable (columns + moreColumns) (rows + moreRows)) :
    shiftToken moreColumns moreRows (shiftToken columns rows token) =
      shiftToken (columns + moreColumns) (rows + moreRows) token := by
  cases accepted : Reference.ofChars? token with
  | none => simp only [shiftToken, accepted]
  | some reference =>
    rcases movable reference accepted with ⟨noZero, once, twice⟩
    have onSheet := (Reference.chars_of_ofChars? isToken noZero accepted).2
    have printed : Reference.ofChars? (reference.shift columns rows).chars =
        some (reference.shift columns rows) :=
      Reference.ofChars?_spelled (onSheet.shift _ _)
    simp only [shiftToken, accepted, printed, Reference.shift_shift once twice]

/-! ## Formulas -/

/-- Where no token has a leading zero, leaving a formula alone is the same as
shifting it by nothing. -/
theorem shift_eq_ofList {formula : String}
    (still : ∀ token ∈ plainTokens formula.toList, shiftToken 0 0 token = token)
    (columns rows : Int) :
    shift formula columns rows =
      String.ofList (changedOutside (shiftToken columns rows) formula.toList) := by
  by_cases nothing : columns = 0 ∧ rows = 0
  · rw [shift, if_pos nothing, nothing.1, nothing.2, changedOutside_eq_self still,
      String.ofList_toList]
  · rw [shift_eq nothing, shiftChars_eq_changedOutside]

theorem shift_shift_of_tokens {formula : String}
    (still : ∀ token ∈ plainTokens formula.toList, shiftToken 0 0 token = token)
    (composes : ∀ token ∈ plainTokens formula.toList,
      shiftToken moreColumns moreRows (shiftToken columns rows token) =
        shiftToken (columns + moreColumns) (rows + moreRows) token) :
    shift (shift formula columns rows) moreColumns moreRows =
      shift formula (columns + moreColumns) (rows + moreRows) := by
  have composed : changedOutside (shiftToken moreColumns moreRows ∘ shiftToken columns rows)
        formula.toList =
      changedOutside (shiftToken (columns + moreColumns) (rows + moreRows)) formula.toList :=
    changedOutside_congr fun token listed => by rw [Function.comp_apply, composes token listed]
  by_cases nothing : moreColumns = 0 ∧ moreRows = 0
  · rw [nothing.1, nothing.2, shift, if_pos ⟨rfl, rfl⟩, Int.add_zero, Int.add_zero]
  · calc
      shift (shift formula columns rows) moreColumns moreRows
        = String.ofList (changedOutside (shiftToken moreColumns moreRows)
            (changedOutside (shiftToken columns rows) formula.toList)) := by
          rw [shift_eq nothing, shiftChars_eq_changedOutside, shift_eq_ofList still,
            String.toList_ofList]
      _ = String.ofList (changedOutside
            (shiftToken (columns + moreColumns) (rows + moreRows)) formula.toList) := by
          rw [changedOutside_changedOutside (keepsShape_shiftToken columns rows), composed]
      _ = shift formula (columns + moreColumns) (rows + moreRows) :=
          (shift_eq_ofList still _ _).symm

/-- A formula shifted twice is the formula shifted once by the sum, and shifted
back it is the formula again, if each of its tokens outside literals is no
reference or has no leading zeros and stays on the sheet. -/
theorem shift_twice {formula : String}
    (movable : ∀ token ∈ plainTokens formula.toList, ∀ reference,
      Reference.ofChars? token = some reference →
        token.find? Char.isDigit ≠ some '0' ∧ reference.Movable columns rows ∧
          reference.Movable (columns + moreColumns) (rows + moreRows)) :
    shift (shift formula columns rows) moreColumns moreRows =
        shift formula (columns + moreColumns) (rows + moreRows) ∧
      shift (shift formula columns rows) (-columns) (-rows) = formula := by
  have still : ∀ token ∈ plainTokens formula.toList, shiftToken 0 0 token = token :=
    fun token listed => shiftToken_zero (isToken_of_mem_plainTokens listed)
      fun reference accepted => (movable token listed reference accepted).1
  constructor
  · exact shift_shift_of_tokens still fun token listed =>
      shiftToken_shiftToken (isToken_of_mem_plainTokens listed) (movable token listed)
  · rw [shift_shift_of_tokens still, Int.add_right_neg, Int.add_right_neg, shift,
      if_pos ⟨rfl, rfl⟩]
    intro token listed
    have isToken := isToken_of_mem_plainTokens listed
    refine shiftToken_shiftToken isToken fun reference accepted => ?_
    rcases movable token listed reference accepted with ⟨noZero, once, _⟩
    have onSheet := (Reference.chars_of_ofChars? isToken noZero accepted).2
    rw [Int.add_right_neg, Int.add_right_neg]
    exact ⟨noZero, once, Reference.movable_zero onSheet⟩

theorem shift_twice_beside_literals :
    let formula := "=SUM($Z9:AZ$10,A0)&\"B2 \\\" C3\"&D4&'E5"
    (∀ token ∈ plainTokens formula.toList, ∀ reference ∈ Reference.ofChars? token,
      token.find? Char.isDigit ≠ some '0' ∧ reference.Movable 1 1 ∧
        reference.Movable (1 + 2) (1 + -3)) ∧
      shift (shift formula 1 1) 2 (-3) = "=SUM($Z7:BC$10,A0)&\"B2 \\\" C3\"&G2&'E5" ∧
      shift (shift formula 1 1) (-1) (-1) = formula := by
  intro formula
  have movable : ∀ token ∈ plainTokens formula.toList, ∀ reference ∈ Reference.ofChars? token,
      token.find? Char.isDigit ≠ some '0' ∧ reference.Movable 1 1 ∧
        reference.Movable (1 + 2) (1 + -3) := by decide +kernel
  rcases shift_twice movable with ⟨twice, back⟩
  refine ⟨movable, twice.trans ?_, back⟩
  decide +kernel

end Formula
end Worksheet
