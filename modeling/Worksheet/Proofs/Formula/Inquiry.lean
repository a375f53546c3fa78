import Worksheet.Proofs.Formula.Coverage
import Worksheet.Proofs.Text.Cutting

namespace Worksheet

/-!
Which cells an evaluation really looks up.  An inquiry is an evaluation that
has to ask for the value of every cell it needs, and that may decide by the
answers what to ask for next or to give up.  Answered by a lookup, the inquiry
of a formula comes to the value of the formula; the cells that it asks for on
the way are those that the evaluation consults.
-/

/-- An evaluation that asks for the values of cells. -/
inductive Inquiry (α : Type) where
  | done (result : α)
  | fail (error : FormulaError)
  | ask (id : String) (next : Option String → Inquiry α)

namespace Inquiry

/-- An inquiry that goes on with the result of another. -/
def bind (inquiry : Inquiry α) (next : α → Inquiry β) : Inquiry β :=
  match inquiry with
  | done result => next result
  | fail error => fail error
  | ask id rest => ask id fun value => (rest value).bind next

instance : Monad Inquiry where
  pure := done
  bind := bind

/-- What an inquiry comes to if a lookup gives the answers. -/
def answer (lookup : Lookup) : Inquiry α → Except FormulaError α
  | done result => .ok result
  | fail error => .error error
  | ask id next => (next (lookup id)).answer lookup

/-- The cells that an inquiry asks for if a lookup gives the answers. -/
def asked (lookup : Lookup) : Inquiry α → List String
  | done _ => []
  | fail _ => []
  | ask id next => id :: (next (lookup id)).asked lookup

/-- An outcome for which nothing has to be asked. -/
def ofExcept : Except FormulaError α → Inquiry α
  | .ok result => done result
  | .error error => fail error

/-- Asks for one cell. -/
def value (id : String) : Inquiry (Option String) :=
  ask id done

/-- Asks for several cells, one after the other. -/
def values : List String → Inquiry (List (Option String))
  | [] => done []
  | id :: ids => do return (← value id) :: (← values ids)

variable {lookup : Lookup} {inquiry : Inquiry α} {next : α → Inquiry β} {id : String}

@[simp] theorem answer_pure (lookup : Lookup) (result : α) :
    (pure result : Inquiry α).answer lookup = pure result :=
  rfl

@[simp] theorem answer_value (lookup : Lookup) (id : String) :
    (value id).answer lookup = pure (lookup id) :=
  rfl

@[simp] theorem answer_ofExcept (lookup : Lookup) (outcome : Except FormulaError α) :
    (ofExcept outcome).answer lookup = outcome := by
  cases outcome <;> rfl

@[simp] theorem answer_bind (lookup : Lookup) (inquiry : Inquiry α) (next : α → Inquiry β) :
    (inquiry >>= next).answer lookup =
      inquiry.answer lookup >>= fun result => (next result).answer lookup := by
  induction inquiry with
  | done result => rfl
  | fail error => rfl
  | ask id rest ih => exact ih (lookup id)

@[simp] theorem answer_values (lookup : Lookup) (ids : List String) :
    (values ids).answer lookup = pure (ids.map lookup) := by
  induction ids with
  | nil => rfl
  | cons id ids ih =>
    rw [values, answer_bind, answer_value, pure_bind, answer_bind, ih, pure_bind, answer_pure,
      List.map_cons]

/-- An inquiry that goes on asks for the cells of its first part and then, if
that has a result, for those of the second. -/
theorem asked_bind (lookup : Lookup) (inquiry : Inquiry α) (next : α → Inquiry β) :
    (inquiry >>= next).asked lookup = inquiry.asked lookup ++
      match inquiry.answer lookup with
      | .ok result => (next result).asked lookup
      | .error _ => [] := by
  induction inquiry with
  | done result => rfl
  | fail error => rfl
  | ask id rest ih => exact congrArg (id :: ·) (ih (lookup id))

theorem mem_asked_bind (member : id ∈ inquiry.asked lookup) :
    id ∈ (inquiry >>= next).asked lookup := by
  rw [asked_bind]
  exact List.mem_append_left _ member

theorem mem_asked_bind_of_ok {result : α} (succeeds : inquiry.answer lookup = .ok result)
    (member : id ∈ (next result).asked lookup) : id ∈ (inquiry >>= next).asked lookup := by
  rw [asked_bind, succeeds]
  exact List.mem_append_right _ member

theorem asked_values (lookup : Lookup) (ids : List String) : (values ids).asked lookup = ids := by
  induction ids with
  | nil => rfl
  | cons id ids ih =>
    have rest : (values ids >>= fun values => pure (lookup id :: values)).asked lookup = ids := by
      rw [asked_bind, ih, answer_values]
      exact List.append_nil ids
    exact congrArg (id :: ·) rest

end Inquiry

namespace Formula

/-! ## The inquiry of a formula -/

/-- Asks for the cells of a range argument. -/
def inquireRange (arguments : List Char) : Inquiry (List (Option String)) := do
  .values (← .ofExcept (rangeCells arguments))

/-- Asks for the cells of a range argument and takes their numbers. -/
def inquireNumbers (arguments : List Char) : Inquiry (List Float) := do
  return (← inquireRange arguments).filterMap (·.bind Number.parse?)

/-- Asks for the cells of a range argument and takes their texts. -/
def inquireTexts (arguments : List Char) : Inquiry (List String) := do
  return (← inquireRange arguments).filterMap id

/-- Asks for the cell that an operand names and takes its number. -/
def inquireNumber (operand : Option (List Char)) : Inquiry Float :=
  match operand with
  | none => .fail .fault
  | some operand =>
    let id := operandId operand
    if (Address.parse? id).isNone then .fail .fault
    else do
      match (← .value id).bind Number.parse? with
      | some number => return number
      | none => .fail .fault

/-- Asks for the cell that an operand names and takes its text. -/
def inquireText (operand : List Char) : Inquiry (List Char) := do
  return ((← .value (operandId operand)).getD "").toList

/-- Asks for the cell in which a literal is to be replaced. -/
def inquireReplacement (arguments : List Char) : Inquiry String :=
  match (Text.split ',' arguments).map Text.trim with
  | [target, find, replacement] => do
    let value ← inquireText target
    let find := Text.upper (unquote find)
    if value = [] ∨ find = [] then return String.ofList value
    else return String.ofList (Text.replaceAll find (Text.upper (unquote replacement)) value)
  | _ => .fail .fault

/-- The inquiry of a call. -/
def inquireCall (function : SheetFunction) (arguments : List Char) : Inquiry String := do
  let operands := Text.split ',' arguments
  match function with
  | .sum => return Number.text (sum (← inquireNumbers arguments))
  | .average =>
    let found ← inquireNumbers arguments
    if found.isEmpty then .fail .divisionByZero else return Number.text (mean found)
  | .max =>
    let found ← inquireNumbers arguments
    return Number.text (← .ofExcept (combine? greater found))
  | .min =>
    let found ← inquireNumbers arguments
    return Number.text (← .ofExcept (combine? lesser found))
  | .count => return Numeral.text (← inquireNumbers arguments).length
  | .stdev =>
    let found ← inquireNumbers arguments
    if found.length < 2 then .fail .notAvailable else return Number.text (deviation found)
  | .product =>
    let found ← inquireNumbers arguments
    return Number.text (if found.isEmpty then 0 else found.foldl (· * ·) 1)
  | .power =>
    let base ← inquireNumber operands[0]?
    let exponent ← inquireNumber operands[1]?
    return Number.text (base.pow exponent)
  | .round =>
    let number ← inquireNumber operands[0]?
    match places? (← inquireNumber operands[1]?) with
    | some places => return Number.fixed number places
    | none => .fail .fault
  | .trim => return String.ofList (Text.trim (← inquireText arguments))
  | .upper => return String.ofList (Text.upper (← inquireText arguments))
  | .lower => return String.ofList (Text.lower (← inquireText arguments))
  | .removeDuplicates => return ",".intercalate (distinct (← inquireTexts arguments))
  | .findAndReplace => inquireReplacement arguments
  | .concatenate => return String.join (← inquireTexts arguments)

/-- The inquiry of a formula. -/
def inquire (formula : String) : Inquiry String :=
  if isFormula formula then
    match readCall? (formula.toList.drop 1) with
    | some (function, arguments) => inquireCall function arguments
    | none => .fail .invalid
  else .done formula

variable {lookup : Lookup} {arguments : List Char}

@[simp] theorem answer_inquireNumbers (lookup : Lookup) (arguments : List Char) :
    (inquireNumbers arguments).answer lookup = numbers lookup arguments := by
  unfold inquireNumbers inquireRange numbers
  simp [List.filterMap_map]

@[simp] theorem answer_inquireTexts (lookup : Lookup) (arguments : List Char) :
    (inquireTexts arguments).answer lookup = texts lookup arguments := by
  unfold inquireTexts inquireRange texts
  simp [List.filterMap_map]

@[simp] theorem answer_inquireNumber (lookup : Lookup) (operand : Option (List Char)) :
    (inquireNumber operand).answer lookup = numberOperand lookup operand := by
  cases operand with
  | none => rfl
  | some operand =>
    unfold inquireNumber numberOperand
    simp only
    split
    · rfl
    · rw [Inquiry.answer_bind, Inquiry.answer_value, pure_bind]
      cases (lookup (operandId operand)).bind Number.parse? <;> rfl

@[simp] theorem answer_inquireText (lookup : Lookup) (operand : List Char) :
    (inquireText operand).answer lookup = pure (textOperand lookup operand) :=
  rfl

@[simp] theorem answer_inquireReplacement (lookup : Lookup) (arguments : List Char) :
    (inquireReplacement arguments).answer lookup = findAndReplace lookup arguments := by
  unfold inquireReplacement findAndReplace
  generalize (Text.split ',' arguments).map Text.trim = parts
  match parts with
  | [] | [_] | [_, _] | _ :: _ :: _ :: _ :: _ => rfl
  | [target, find, replacement] =>
    simp only [Inquiry.answer_bind, answer_inquireText, pure_bind]
    split <;> rfl

theorem answer_inquireCall (lookup : Lookup) (function : SheetFunction) (arguments : List Char) :
    (inquireCall function arguments).answer lookup = call function lookup arguments := by
  cases function with
  | sum | count | product | power | trim | upper | lower | removeDuplicates | findAndReplace
  | concatenate | max | min => simp [inquireCall, call]
  | average | stdev =>
    simp only [inquireCall, call, Inquiry.answer_bind, answer_inquireNumbers]
    refine bind_congr fun found => ?_
    split <;> rfl
  | round =>
    simp only [inquireCall, call, Inquiry.answer_bind, answer_inquireNumber]
    refine bind_congr fun number => bind_congr fun decimals => ?_
    cases places? decimals <;> rfl

/-- Answered by a lookup, the inquiry of a formula comes to its value. -/
theorem answer_inquire (formula : String) (lookup : Lookup) :
    (inquire formula).answer lookup = evaluate? formula lookup := by
  unfold inquire evaluate?
  split
  · cases readCall? (formula.toList.drop 1) with
    | none => rfl
    | some parts => exact answer_inquireCall lookup parts.1 parts.2
  · rfl

/-! ## What is consulted -/

theorem mem_asked_inquireRange {id : String} (member : id ∈ rangeReads arguments) :
    id ∈ (inquireRange arguments).asked lookup := by
  unfold rangeReads at member
  unfold inquireRange
  cases found : rangeCells arguments with
  | error error =>
    rw [found] at member
    cases member
  | ok ids =>
    rw [found] at member
    refine Inquiry.mem_asked_bind_of_ok rfl ?_
    rwa [Inquiry.asked_values]

theorem mem_asked_inquireNumber {operand : List Char}
    (parsed : (Address.parse? (operandId operand)).isSome) :
    operandId operand ∈ (inquireNumber (some operand)).asked lookup := by
  have named : ¬(Address.parse? (operandId operand)).isNone :=
    fun missing => Option.isSome_iff_ne_none.mp parsed (Option.isNone_iff_eq_none.mp missing)
  unfold inquireNumber
  simp only [if_neg named]
  exact List.mem_cons_self

theorem mem_asked_inquireText (lookup : Lookup) (operand : List Char) :
    operandId operand ∈ (inquireText operand).asked lookup :=
  List.mem_cons_self

/-- A replacement asks for the cell of its first operand and for no other. -/
theorem asked_inquireReplacement {target find replacement : List Char}
    (parts : Text.split ',' arguments = [target, find, replacement]) :
    (inquireReplacement arguments).asked lookup = [operandId target] := by
  have same : operandId (Text.trim target) = operandId target := by
    rw [operandId, operandId, Text.trim_trim]
  unfold inquireReplacement
  simp only [parts, List.map_cons, List.map_nil]
  rw [Inquiry.asked_bind, answer_inquireText, ← same]
  simp only [pure, Except.pure]
  split <;> rfl

/-- Whether the evaluation of a formula looks up a cell, given where the values
come from. -/
def Consults (formula : String) (lookup : Lookup) (id : String) : Prop :=
  id ∈ (inquire formula).asked lookup

end Formula
end Worksheet
