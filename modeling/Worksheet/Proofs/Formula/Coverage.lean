import Mathlib.Data.List.Basic
import Worksheet.Formula.Evaluation
import Worksheet.Formula.Precedents

namespace Worksheet
namespace Formula

/-!
Coverage.  The cells that a formula looks up are read off the text of its
arguments, function by function, and its value depends on nothing else.  A
formula is covered when the cells that its text names already determine its
value.
-/

/-! ## What a formula looks up -/

/-- The cells whose values the argument of a range function gives. -/
def rangeReads (arguments : List Char) : List String :=
  match rangeCells arguments with
  | .ok ids => ids
  | .error _ => []

/-- The cells that a call looks up. -/
def callReads (function : SheetFunction) (arguments : List Char) : List String :=
  match function with
  | .power | .round => ((Text.split ',' arguments).take 2).map operandId
  | .trim | .upper | .lower => [operandId arguments]
  | .findAndReplace => ((Text.split ',' arguments).take 1).map (operandId ∘ Text.trim)
  | .sum | .average | .max | .min | .count | .stdev | .product | .removeDuplicates
  | .concatenate => rangeReads arguments

/-- The cells that the evaluation of a formula looks up. -/
def reads (formula : String) : List String :=
  if isFormula formula then
    match readCall? (formula.toList.drop 1) with
    | some (function, arguments) => callReads function arguments
    | none => []
  else []

variable {first second : Lookup} {arguments : List Char}

theorem numbers_congr (agree : ∀ id ∈ rangeReads arguments, first id = second id) :
    numbers first arguments = numbers second arguments := by
  unfold rangeReads at agree
  unfold numbers
  cases found : rangeCells arguments with
  | error error => rfl
  | ok ids =>
    rw [found] at agree
    exact congrArg Except.ok (List.filterMap_congr fun id member => by rw [agree id member])

theorem texts_congr (agree : ∀ id ∈ rangeReads arguments, first id = second id) :
    texts first arguments = texts second arguments := by
  unfold rangeReads at agree
  unfold texts
  cases found : rangeCells arguments with
  | error error => rfl
  | ok ids =>
    rw [found] at agree
    exact congrArg Except.ok (List.filterMap_congr agree)

theorem numberOperand_congr {operand : Option (List Char)}
    (agree : ∀ text ∈ operand, first (operandId text) = second (operandId text)) :
    numberOperand first operand = numberOperand second operand := by
  cases operand with
  | none => rfl
  | some text => rw [numberOperand, numberOperand, agree text rfl]

theorem textOperand_congr {operand : List Char}
    (agree : first (operandId operand) = second (operandId operand)) :
    textOperand first operand = textOperand second operand := by
  rw [textOperand, textOperand, agree]

theorem findAndReplace_congr
    (agree : ∀ id ∈ callReads .findAndReplace arguments, first id = second id) :
    findAndReplace first arguments = findAndReplace second arguments := by
  unfold findAndReplace
  split
  · next target find replacement parts =>
    have same : textOperand first target = textOperand second target := by
      refine textOperand_congr (agree _ ?_)
      cases pieces : Text.split ',' arguments with
      | nil =>
        rw [pieces] at parts
        cases parts
      | cons piece rest =>
        rw [pieces, List.map_cons] at parts
        rcases List.cons.inj parts with ⟨rfl, _⟩
        simp [callReads, pieces]
    rw [same]
  · rfl

theorem call_congr {function : SheetFunction}
    (agree : ∀ id ∈ callReads function arguments, first id = second id) :
    call function first arguments = call function second arguments := by
  have operand (place : Nat) (early : place < 2)
      (agree : ∀ id ∈ ((Text.split ',' arguments).take 2).map operandId, first id = second id) :
      numberOperand first (Text.split ',' arguments)[place]? =
        numberOperand second (Text.split ',' arguments)[place]? := by
    refine numberOperand_congr fun text found => agree _ (List.mem_map_of_mem ?_)
    refine List.mem_iff_getElem?.mpr ⟨place, ?_⟩
    rw [List.getElem?_take, if_pos early, found]
  cases function with
  | power | round => simp only [call, operand 0 (by decide) agree, operand 1 (by decide) agree]
  | trim | upper | lower =>
    simp only [call, textOperand_congr (agree _ (List.mem_singleton_self _))]
  | findAndReplace => simp only [call, findAndReplace_congr agree]
  | removeDuplicates | concatenate => simp only [call, texts_congr agree]
  | sum | average | max | min | count | stdev | product =>
    simp only [call, numbers_congr agree]

theorem evaluate_congr {formula : String} (agree : ∀ id ∈ reads formula, first id = second id) :
    evaluate formula first = evaluate formula second := by
  have same : evaluate? formula first = evaluate? formula second := by
    unfold evaluate?
    unfold reads at agree
    split
    · next starts =>
      rw [if_pos starts] at agree
      cases found : readCall? (formula.toList.drop 1) with
      | none => rfl
      | some parts =>
        rw [found] at agree
        exact call_congr agree
    · rfl
  rw [evaluate, evaluate, same]

/-! ## Covered formulas -/

/-- Whether any two lookups that agree on the precedents of a formula give the
same value to it. -/
def Covered (formula : String) : Prop :=
  ∀ first second : Lookup, (∀ read ∈ precedents formula, first read = second read) →
    evaluate formula first = evaluate formula second

/-- Whether a formula is covered as far as some cells are concerned: for lookups
that have no value elsewhere. -/
def CoveredOn (Cell : String → Prop) (formula : String) : Prop :=
  ∀ first second : Lookup, (∀ id, ¬Cell id → first id = none ∧ second id = none) →
    (∀ read ∈ precedents formula, first read = second read) →
      evaluate formula first = evaluate formula second

/-- A formula that names all that it looks up is covered. -/
theorem covered_of_reads {formula : String}
    (named : ∀ id ∈ reads formula, id ∈ precedents formula) : Covered formula :=
  fun _ _ agree => evaluate_congr fun id member => agree id (named id member)

theorem covered_of_not_isFormula {text : String} (plain : isFormula text = false) :
    Covered text := by
  apply covered_of_reads
  intro id member
  rw [reads, if_neg (by rw [plain]; exact Bool.false_ne_true)] at member
  cases member

theorem Covered.coveredOn {formula : String} (covered : Covered formula)
    (Cell : String → Prop) : CoveredOn Cell formula :=
  fun first second _ agree => covered first second agree

theorem CoveredOn.mono {formula : String} {Fewer More : String → Prop}
    (covered : CoveredOn More formula) (within : ∀ id, Fewer id → More id) :
    CoveredOn Fewer formula :=
  fun first second missing agree =>
    covered first second (fun id outside => missing id (mt (within id) outside)) agree

end Formula
end Worksheet
