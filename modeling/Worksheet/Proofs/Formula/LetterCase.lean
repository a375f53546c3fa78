import Worksheet.Formula.Evaluation
import Worksheet.Proofs.Range
import Worksheet.Proofs.Reference.Character
import Worksheet.Proofs.Text.Cutting

namespace Worksheet

/-!
The letter case of formulas.  Raising a formula to upper case commutes with
every way in which the evaluation takes its text apart, since brackets, commas,
blanks, quotes and dollar signs stay what they are.  Each part is raised once
more where it is used: names when they are looked up in the catalogue,
references when they are made identifiers, and literals when they are sought.
-/

open Reference (toUpper_eq_iff isBlank_toUpper map_toUpper_map_toUpper dropDollars)

/-! ## Literals -/

namespace Text

/-- A small ASCII letter has the upper case that its capital has. -/
theorem upperChar_toUpper (c : Char) : upperChar c.toUpper = upperChar c := by
  rcases Reference.toUpper_cases c with same | ⟨lower, _⟩
  · rw [same]
  · have letters : ∀ rank : Fin 26, upperChar (Char.ofNat (97 + rank)).toUpper =
        upperChar (Char.ofNat (97 + rank)) := by decide +kernel
    have bounds := Reference.isLower_iff.mp lower
    have here := letters ⟨c.toNat - 97, by omega⟩
    rwa [Nat.add_sub_cancel' bounds.1, Char.ofNat_toNat] at here

theorem upper_map_toUpper (text : List Char) : upper (text.map Char.toUpper) = upper text := by
  rw [upper, List.flatMap_map]
  exact List.flatMap_congr fun c _ => upperChar_toUpper c

end Text

/-! ## Parts of a formula -/

namespace Formula

open Text (trim split beforeLast cutAtFirst?)

theorem trim_map_toUpper (text : List Char) :
    trim (text.map Char.toUpper) = (trim text).map Char.toUpper :=
  Text.trim_map isBlank_toUpper text

/-- The mark is neither a capital nor a small letter, so raising keeps it. -/
theorem split_map_toUpper (text : List Char) :
    split ',' (text.map Char.toUpper) = (split ',' text).map (List.map Char.toUpper) :=
  Text.split_map (fun _ => toUpper_eq_iff rfl rfl) text

theorem operandId_map_toUpper (operand : List Char) :
    operandId (operand.map Char.toUpper) = operandId operand := by
  have kept : dropDollars ((trim operand).map Char.toUpper) =
      (dropDollars (trim operand)).map Char.toUpper :=
    Range.dropDollars_map (fun _ => toUpper_eq_iff rfl rfl) _
  rw [operandId, trim_map_toUpper, kept, map_toUpper_map_toUpper, operandId]

theorem isQuote_toUpper (c : Char) : isQuote c.toUpper = isQuote c := by
  have double : c.toUpper = '"' ↔ c = '"' := toUpper_eq_iff rfl rfl
  have single : c.toUpper = '\'' ↔ c = '\'' := toUpper_eq_iff rfl rfl
  simp only [isQuote, double, single]

theorem unquote_map_toUpper (literal : List Char) :
    unquote (literal.map Char.toUpper) = (unquote literal).map Char.toUpper := by
  cases literal with
  | nil => rfl
  | cons c rest =>
    have opened : (if isQuote c then rest.map Char.toUpper
        else c.toUpper :: rest.map Char.toUpper) =
        (if isQuote c then rest else c :: rest).map Char.toUpper := by
      split <;> rfl
    unfold unquote
    simp only [List.map_cons, isQuote_toUpper, opened]
    generalize (if isQuote c then rest else c :: rest) = literal
    rw [List.getLast?_map]
    cases literal.getLast? with
    | none => rfl
    | some last =>
      simp only [Option.map_some, isQuote_toUpper]
      split
      · exact List.map_dropLast.symm
      · rfl

/-! ## Arguments -/

theorem rangeCells_map_toUpper (arguments : List Char) :
    rangeCells (arguments.map Char.toUpper) = rangeCells arguments := by
  rw [rangeCells, map_toUpper_map_toUpper, rangeCells]

theorem numberOperand_map_toUpper (lookup : Lookup) (operand : Option (List Char)) :
    numberOperand lookup (operand.map (List.map Char.toUpper)) =
      numberOperand lookup operand := by
  cases operand with
  | none => rfl
  | some operand => simp only [Option.map_some, numberOperand, operandId_map_toUpper]

theorem textOperand_map_toUpper (lookup : Lookup) (operand : List Char) :
    textOperand lookup (operand.map Char.toUpper) = textOperand lookup operand := by
  rw [textOperand, operandId_map_toUpper, textOperand]

/-- Both literals are raised before they are used. -/
theorem findAndReplace_map_toUpper (lookup : Lookup) (arguments : List Char) :
    findAndReplace lookup (arguments.map Char.toUpper) = findAndReplace lookup arguments := by
  have parts : (split ',' (arguments.map Char.toUpper)).map trim =
      ((split ',' arguments).map trim).map (List.map Char.toUpper) := by
    rw [split_map_toUpper, List.map_map, List.map_map]
    exact List.map_congr_left fun part _ => trim_map_toUpper part
  unfold findAndReplace
  rw [parts]
  match (split ',' arguments).map trim with
  | [] | [_] | [_, _] | _ :: _ :: _ :: _ :: _ => rfl
  | [target, find, replacement] =>
    simp only [List.map_cons, List.map_nil, textOperand_map_toUpper, unquote_map_toUpper,
      Text.upper_map_toUpper]

/-- The arguments of a call may be raised to upper case. -/
theorem call_map_toUpper (function : SheetFunction) (lookup : Lookup) (arguments : List Char) :
    call function lookup (arguments.map Char.toUpper) = call function lookup arguments := by
  have numbers : numbers lookup (arguments.map Char.toUpper) = numbers lookup arguments := by
    rw [Formula.numbers, rangeCells_map_toUpper, Formula.numbers]
  have texts : texts lookup (arguments.map Char.toUpper) = texts lookup arguments := by
    rw [Formula.texts, rangeCells_map_toUpper, Formula.texts]
  have operand (place : Nat) :
      numberOperand lookup (split ',' (arguments.map Char.toUpper))[place]? =
        numberOperand lookup (split ',' arguments)[place]? := by
    rw [split_map_toUpper, List.getElem?_map, numberOperand_map_toUpper]
  cases function with
  | sum | average | max | min | count | stdev | product => simp only [call, numbers]
  | power | round => simp only [call, operand]
  | trim | upper | lower => simp only [call, textOperand_map_toUpper]
  | removeDuplicates | concatenate => simp only [call, texts]
  | findAndReplace => exact findAndReplace_map_toUpper lookup arguments

/-! ## Calls -/

theorem ofName?_map_toUpper (name : List Char) :
    SheetFunction.ofName? (name.map Char.toUpper) = SheetFunction.ofName? name := by
  rw [SheetFunction.ofName?, map_toUpper_map_toUpper, SheetFunction.ofName?]

/-- A raised formula calls the same function, with its arguments raised. -/
theorem readCall?_map_toUpper (body : List Char) :
    readCall? (body.map Char.toUpper) =
      (readCall? body).map (Prod.map id (List.map Char.toUpper)) := by
  have bracket (c : Char) : c.toUpper = '(' ↔ c = '(' := toUpper_eq_iff rfl rfl
  have closing (c : Char) : c.toUpper = ')' ↔ c = ')' := toUpper_eq_iff rfl rfl
  unfold readCall?
  rw [trim_map_toUpper, Text.cutAtFirst?_map bracket]
  cases cutAtFirst? '(' (trim body) with
  | none => rfl
  | some parts =>
    rcases parts with ⟨name, rest⟩
    simp only [Option.map_some, Option.bind_eq_bind, Option.bind_some, Prod.map,
      ofName?_map_toUpper, Text.beforeLast_map closing]
    cases SheetFunction.ofName? name <;> rfl

/-- The value of a formula does not depend on the case of its ASCII letters. -/
theorem evaluate?_ignores_letter_case {formula : String} (starts : isFormula formula = true)
    (lookup : Lookup) : evaluate? formula.toUpper lookup = evaluate? formula lookup := by
  have characters : formula.toUpper.toList = formula.toList.map Char.toUpper := String.toList_map
  have raisedStarts : isFormula formula.toUpper = true := by
    have first : formula.toList.head? = some '=' := of_decide_eq_true starts
    rw [isFormula, characters, List.head?_map, first]
    rfl
  rw [evaluate?, evaluate?, if_pos starts, if_pos raisedStarts, characters, ← List.map_drop,
    readCall?_map_toUpper]
  cases readCall? (formula.toList.drop 1) with
  | none => rfl
  | some parts => exact call_map_toUpper parts.1 lookup parts.2

/-- The literals are raised to upper case in any event, here to `STRASSE` and
`ΔΩ`. -/
theorem evaluate?_ignores_letter_case_of_literals :
    let formula := "=Find_and_Replace( $a1 ,'straße' , \"δω\")"
    let lookup : Lookup := fun id => if id = "A1" then some "Die STRASSE" else none
    isFormula formula = true ∧ evaluate? formula lookup = .ok "Die ΔΩ" ∧
      evaluate? formula.toUpper lookup = .ok "Die ΔΩ" := by
  intro formula lookup
  have starts : isFormula formula = true := by decide +kernel
  have value : evaluate? formula lookup = .ok "Die ΔΩ" := by decide +kernel
  exact ⟨starts, value, (evaluate?_ignores_letter_case starts lookup).trans value⟩

end Formula
end Worksheet
