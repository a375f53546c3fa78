import Worksheet.Formula.Evaluation
import Worksheet.Proofs.Formula.Segments
import Worksheet.Proofs.Reference.Shift

namespace Worksheet
namespace Formula

/-!
Shifted formulas.  Outside literals a shift changes the tokens and nothing
else.  The brackets of a call and the name before them are no part of a token,
so the shifted formula calls the same function, and as long as no literal begins
before the last bracket its arguments are the shifted arguments.
-/

open Reference (isTokenChar changed tokenMeasure keepsShape_shiftToken)
open Text (isBlank trim beforeLast cutAtFirst?)

variable {text before name rest arguments : List Char} {c : Char} {columns rows : Int}
  {function : SheetFunction}

/-! ## Texts with literals -/

/-- A text with the references outside literals shifted. -/
def shiftChars (columns rows : Int) (text : List Char) : List Char :=
  (segments text).flatMap (Segment.shift columns rows)

theorem shiftChars_eq_changedOutside (columns rows : Int) (text : List Char) :
    shiftChars columns rows text = changedOutside (shiftToken columns rows) text := by
  rw [shiftChars, changedOutside]
  congr 1
  funext segment
  cases segment <;> rfl

theorem shift_eq (moved : ¬(columns = 0 ∧ rows = 0)) (formula : String) :
    shift formula columns rows = String.ofList (shiftChars columns rows formula.toList) :=
  if_neg moved

theorem shiftChars_append_cons (plain : ∀ d ∈ text, opensLiteral d = false)
    (outside : isTokenChar c = false) (plainMark : opensLiteral c = false) (rest : List Char) :
    shiftChars columns rows (text ++ c :: rest) =
      changed (shiftToken columns rows) text ++ c :: shiftChars columns rows rest := by
  rw [shiftChars_eq_changedOutside, shiftChars_eq_changedOutside,
    changedOutside_append_cons plain outside plainMark]

theorem mem_shiftChars_iff (notUpper : c.isUpper = false) (notDigit : c.isDigit = false) :
    c ∈ shiftChars columns rows text ↔ c ∈ text := by
  rw [shiftChars_eq_changedOutside,
    mem_changedOutside_iff (keepsShape_shiftToken columns rows) notUpper notDigit]

/-! ## Calls -/

theorem ne_of_isBlank {blank mark : Char} (isBlank : isBlank blank = true)
    (filled : Text.isBlank mark = false) : mark ≠ blank := by
  rintro rfl
  rw [filled] at isBlank
  cases isBlank

/-- A call is read from its name and its brackets, with blanks before it. -/
theorem readCall?_append (blank : ∀ d ∈ before, isBlank d)
    (first : ∀ d ∈ name.head?, isBlank d = false) (noBracket : '(' ∉ name) (rest : List Char) :
    readCall? (before ++ (name ++ '(' :: rest)) =
      (SheetFunction.ofName? name).map (·, beforeLast ')' rest) := by
  have whole : before ++ (name ++ '(' :: rest) =
      before ++ (name ++ '(' :: rest.rdropWhile isBlank) ++ rest.rtakeWhile isBlank := by
    rw [List.append_assoc, List.append_assoc, List.cons_append, List.rdropWhile_append_rtakeWhile]
  have begins : ∀ d ∈ (name ++ '(' :: rest.rdropWhile isBlank).head?, isBlank d = false := by
    intro d head
    cases name with
    | nil =>
      rw [← Option.some.inj head]
      rfl
    | cons letter letters => exact first d head
  have ends : ∀ d ∈ (name ++ '(' :: rest.rdropWhile isBlank).getLast?, isBlank d = false := by
    intro d last
    rw [List.getLast?_append, List.getLast?_cons] at last
    cases shape : (rest.rdropWhile isBlank).getLast? with
    | none =>
      rw [shape] at last
      rw [← Option.some.inj last]
      rfl
    | some e =>
      rw [shape] at last
      rcases List.mem_getLast?_eq_getLast shape with ⟨nonempty, isLast⟩
      rw [← Option.some.inj last, Option.getD_some, isLast]
      exact Bool.not_eq_true _ ▸ List.rdropWhile_last_not isBlank _ nonempty
  have trimmed : trim (before ++ (name ++ '(' :: rest)) =
      name ++ '(' :: rest.rdropWhile isBlank := by
    rw [whole]
    exact Text.trim_eq_of_between blank (fun d member => List.mem_rtakeWhile_imp member) begins ends
  have noClosing : ')' ∉ rest.rtakeWhile isBlank := fun member =>
    ne_of_isBlank (List.mem_rtakeWhile_imp member) rfl rfl
  have closed : beforeLast ')' (rest.rdropWhile isBlank) = beforeLast ')' rest := by
    conv_rhs => rw [← List.rdropWhile_append_rtakeWhile (p := isBlank) (l := rest)]
    rw [Text.beforeLast_append_of_not_mem noClosing]
  have read : readCall? (before ++ (name ++ '(' :: rest)) =
      (SheetFunction.ofName? name).bind fun function =>
        some (function, beforeLast ')' (rest.rdropWhile isBlank)) := by
    rw [readCall?, trimmed, Text.cutAtFirst?_append_cons noBracket]
    rfl
  rw [read, closed, Option.map_eq_bind]
  rfl

theorem exists_of_readCall? {body : List Char}
    (call : readCall? body = some (function, arguments)) :
    ∃ before name rest, body = before ++ (name ++ '(' :: rest) ∧ (∀ d ∈ before, isBlank d) ∧
      (∀ d ∈ name.head?, isBlank d = false) ∧ '(' ∉ name ∧
        SheetFunction.ofName? name = some function ∧ arguments = beforeLast ')' rest := by
  rcases Option.bind_eq_some_iff.mp call with ⟨⟨name, rest⟩, cut, call⟩
  rcases Option.bind_eq_some_iff.mp call with ⟨_, named, result⟩
  cases result
  rcases Text.exists_trim body with ⟨before, after, whole, left, right⟩
  have trimmed := Text.eq_of_cutAtFirst? cut
  have noClosing : ')' ∉ after := fun member => ne_of_isBlank (right _ member) rfl rfl
  refine ⟨before, name, rest ++ after, ?_, left, fun d head => ?_,
    Text.not_mem_of_cutAtFirst? cut, named, (Text.beforeLast_append_of_not_mem noClosing _).symm⟩
  · rw [whole, trimmed]
    simp only [List.append_assoc, List.cons_append]
  · have begins : d ∈ (trim body).head? := by
      rw [trimmed, List.head?_append, head]
      rfl
    exact Text.isBlank_head?_trim begins

/-- Neither digits nor quotes stand in the name of a function. -/
theorem plain_of_ofName? (named : SheetFunction.ofName? name = some function) (member : c ∈ name) :
    c.isDigit = false ∧ opensLiteral c = false := by
  have same : function.name.toList = name.map Char.toUpper := by
    have spelled := List.find?_some named
    exact of_decide_eq_true spelled
  have raised : c.toUpper ∈ function.name.toList := same ▸ List.mem_map_of_mem member
  have catalogue : ∀ function ∈ SheetFunction.all,
      function.name.toList.all fun c => !c.isDigit && !opensLiteral c := by decide +kernel
  have plain : c.toUpper.isDigit = false ∧ opensLiteral c.toUpper = false := by
    simpa using List.all_eq_true.mp (catalogue function (SheetFunction.mem_all function)) _ raised
  cases lower : c.isLower with
  | false => rwa [Reference.toUpper_eq_self lower] at plain
  | true =>
    rw [Reference.isLower_iff] at lower
    constructor
    · rw [Bool.eq_false_iff, ne_eq, Reference.isDigit_iff]
      omega
    · simp only [opensLiteral, Bool.or_eq_false_iff, decide_eq_false_iff_not]
      constructor <;> · rintro rfl; revert lower; decide

theorem plain_of_isBlank (blank : isBlank c = true) :
    c.isDigit = false ∧ opensLiteral c = false := by
  refine ⟨Reference.isDigit_of_not_isTokenChar (Reference.isTokenChar_of_isBlank blank), ?_⟩
  simp only [opensLiteral, Bool.or_eq_false_iff, decide_eq_false_iff_not]
  constructor <;> exact fun same => ne_of_isBlank blank rfl same.symm

/-- Up to the opening bracket of its call a formula has neither digits nor quotes. -/
theorem plain_before_bracket (blank : ∀ d ∈ before, isBlank d)
    (named : SheetFunction.ofName? name = some function) (member : c ∈ '=' :: (before ++ name)) :
    c.isDigit = false ∧ opensLiteral c = false := by
  rcases List.mem_cons.mp member with rfl | member
  · exact ⟨rfl, rfl⟩
  rcases List.mem_append.mp member with early | late
  · exact plain_of_isBlank (blank c early)
  · exact plain_of_ofName? named late

/-- A shifted formula calls the same function with the shifted arguments. -/
theorem readCall?_shiftChars {body : List Char}
    (call : readCall? body = some (function, arguments))
    (plain : ∀ d ∈ arguments, opensLiteral d = false) (columns rows : Int) :
    ∃ shifted, shiftChars columns rows ('=' :: body) = '=' :: shifted ∧
      readCall? shifted = some (function, changed (shiftToken columns rows) arguments) := by
  rcases exists_of_readCall? call with
    ⟨before, name, rest, rfl, blank, first, noBracket, named, rfl⟩
  refine ⟨before ++ (name ++ '(' :: shiftChars columns rows rest), ?_, ?_⟩
  · have opened : shiftChars columns rows ('=' :: (before ++ name) ++ '(' :: rest) =
        changed (shiftToken columns rows) ('=' :: (before ++ name)) ++
          '(' :: shiftChars columns rows rest :=
      shiftChars_append_cons (fun _ member => (plain_before_bracket blank named member).2) rfl rfl
        rest
    rw [Reference.changed_of_no_digit fun _ member =>
      (plain_before_bracket blank named member).1] at opened
    simpa only [List.cons_append, List.append_assoc] using opened
  · rw [readCall?_append blank first noBracket, named, Option.map_some]
    refine congrArg (fun arguments => some (function, arguments)) ?_
    rcases Text.beforeLast_cases ')' rest with absent | ⟨inside, after, rfl, absent⟩
    · rw [Text.beforeLast_of_not_mem absent, Reference.changed_nil]
      exact Text.beforeLast_of_not_mem (mt (mem_shiftChars_iff rfl rfl).mp absent)
    · rw [Text.beforeLast_append_cons absent] at plain ⊢
      rw [shiftChars_append_cons plain rfl rfl]
      exact Text.beforeLast_append_cons (mt (mem_shiftChars_iff rfl rfl).mp absent) _

end Formula
end Worksheet
