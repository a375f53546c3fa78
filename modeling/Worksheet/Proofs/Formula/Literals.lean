import Mathlib.Logic.Function.Basic
import Worksheet.Proofs.Formula.Coverage

namespace Worksheet
namespace Formula

/-!
Coverage tested with literals.  A literal is a text that a cell keeps as its
value when it is typed into it; a formula is blind outside its precedents if
no literal in any other empty cell changes its value.  A blind formula is
covered, although the values that count for coverage need not be literals:
functions of numbers see only texts that count as numbers, and those are
literals, and a function of texts that looks up a cell at all can be made to
show a literal in it.
-/

/-- Whether a text stays a value when it is typed. -/
def Literal (text : String) : Prop :=
  text ≠ "" ∧ isFormula text = false

instance (text : String) : Decidable (Literal text) :=
  inferInstanceAs (Decidable (_ ∧ _))

/-- Whether a lookup has values in the given cells only, all of them
literals. -/
def LiteralOn (Cell : String → Prop) (lookup : Lookup) : Prop :=
  ∀ id text, lookup id = some text → Cell id ∧ Literal text

/-- Whether a literal in an empty cell outside the precedents never changes the
value of a formula. -/
def Blind (Cell : String → Prop) (formula : String) : Prop :=
  ∀ (lookup : Lookup) (id text : String), LiteralOn Cell lookup → Cell id →
    id ∉ precedents formula → lookup id = none → Literal text →
      evaluate formula lookup = evaluate formula (Function.update lookup id (some text))

/-- The lookup without a value anywhere. -/
def nowhere : Lookup :=
  fun _ => none

/-- A lookup with the values of some cells taken away. -/
def without (ids : List String) (lookup : Lookup) : Lookup :=
  fun id => if id ∈ ids then none else lookup id

variable {Cell : String → Prop} {formula : String} {first second lookup : Lookup}
  {ids : List String} {id text : String}

/-! ## Literal lookups -/

theorem literalOn_nowhere : LiteralOn Cell nowhere :=
  fun _ _ found => nomatch found

theorem LiteralOn.without (literal : LiteralOn Cell lookup) (ids : List String) :
    LiteralOn Cell (Formula.without ids lookup) := by
  intro id text found
  unfold Formula.without at found
  split at found
  · cases found
  · exact literal id text found

theorem without_cons_eq_update (ids : List String) (id : String) (lookup : Lookup) :
    without (id :: ids) lookup = Function.update (without ids lookup) id none := by
  funext other
  by_cases same : other = id
  · rw [same, Function.update_self, without, if_pos List.mem_cons_self]
  · rw [Function.update_of_ne same, without, without]
    simp only [List.mem_cons, same, false_or]

/-- Cells outside the precedents can be emptied one after the other. -/
theorem Blind.evaluate_without (blind : Blind Cell formula) (literal : LiteralOn Cell lookup)
    (unseen : ∀ id ∈ ids, id ∉ precedents formula) :
    evaluate formula (without ids lookup) = evaluate formula lookup := by
  induction ids with
  | nil => rfl
  | cons id ids ih =>
    rw [← ih fun other member => unseen other (List.mem_cons_of_mem _ member)]
    rw [without_cons_eq_update]
    cases before : without ids lookup id with
    | none => rw [← before, Function.update_eq_self]
    | some text =>
      rcases literal.without ids id text before with ⟨cell, isLiteral⟩
      have emptied : LiteralOn Cell (Function.update (without ids lookup) id none) := by
        rw [← without_cons_eq_update]
        exact literal.without (id :: ids)
      have taken : Function.update (without ids lookup) id none id = none :=
        Function.update_self _ _ _
      rw [blind _ id text emptied cell (unseen id List.mem_cons_self) taken isLiteral,
        Function.update_idem, ← before, Function.update_eq_self]

/-- On literals a blind formula depends on its precedents only. -/
theorem Blind.evaluate_eq (blind : Blind Cell formula) (literalFirst : LiteralOn Cell first)
    (literalSecond : LiteralOn Cell second)
    (agree : ∀ read ∈ precedents formula, first read = second read) :
    evaluate formula first = evaluate formula second := by
  have unseen : ∀ id ∈ (reads formula).filter (· ∉ precedents formula),
      id ∉ precedents formula :=
    fun id member => of_decide_eq_true (List.mem_filter.mp member).2
  rw [← blind.evaluate_without literalFirst unseen,
    ← blind.evaluate_without literalSecond unseen]
  refine evaluate_congr fun id member => ?_
  by_cases named : id ∈ precedents formula
  · have kept : id ∉ (reads formula).filter (· ∉ precedents formula) :=
      fun listed => unseen id listed named
    rw [without, without, if_neg kept, if_neg kept]
    exact agree id named
  · have taken : id ∈ (reads formula).filter (· ∉ precedents formula) :=
      List.mem_filter.mpr ⟨member, decide_eq_true named⟩
    rw [without, without, if_pos taken, if_pos taken]

/-! ## Functions of numbers -/

/-- Whether a function sees numbers only. -/
def IsNumeric : SheetFunction → Bool
  | .sum | .average | .max | .min | .count | .stdev | .product | .power | .round => true
  | .trim | .upper | .lower | .removeDuplicates | .findAndReplace | .concatenate => false

/-- A lookup with all texts taken away that do not count as numbers. -/
def numeric (lookup : Lookup) : Lookup :=
  fun id => (lookup id).filter fun text => (Number.parse? text).isSome

theorem numeric_bind (lookup : Lookup) (id : String) :
    (numeric lookup id).bind Number.parse? = (lookup id).bind Number.parse? := by
  unfold numeric
  cases lookup id with
  | none => rfl
  | some text =>
    cases parsed : Number.parse? text with
    | none => simp [parsed]
    | some number =>
      have counts : (Number.parse? text).isSome := by rw [parsed]; rfl
      rw [Option.filter_some, if_pos counts]

theorem call_numeric {function : SheetFunction} (isNumeric : IsNumeric function = true)
    (lookup : Lookup) (arguments : List Char) :
    call function (numeric lookup) arguments = call function lookup arguments := by
  have range : numbers (numeric lookup) arguments = numbers lookup arguments := by
    simp only [numbers, numeric_bind]
  have operand (text : Option (List Char)) :
      numberOperand (numeric lookup) text = numberOperand lookup text := by
    cases text with
    | none => rfl
    | some text => simp only [numberOperand, numeric_bind]
  cases function with
  | sum | average | max | min | count | stdev | product => simp only [call, range]
  | power | round => simp only [call, operand]
  | trim | upper | lower | removeDuplicates | findAndReplace | concatenate => cases isNumeric

theorem literal_of_parse? (number : (Number.parse? text).isSome) : Literal text := by
  constructor
  · rintro rfl
    cases number
  · rw [Bool.eq_false_iff]
    intro starts
    rcases List.head?_eq_some_iff.mp (of_decide_eq_true starts) with ⟨rest, shape⟩
    rw [Number.parse?, shape] at number
    cases number

theorem literalOn_numeric (missing : ∀ id, ¬Cell id → lookup id = none) :
    LiteralOn Cell (numeric lookup) := by
  intro id text found
  rcases Option.filter_eq_some_iff.mp found with ⟨present, number⟩
  refine ⟨?_, literal_of_parse? number⟩
  by_contra outside
  rw [missing id outside] at present
  cases present

/-! ## Functions of texts -/

/-- The text in a cell for the result of a call. -/
def resultText (result : Except FormulaError String) : String :=
  match result with
  | .ok value => value
  | .error error => error.token

theorem evaluate_eq_resultText (formula : String) (lookup : Lookup) :
    evaluate formula lookup = resultText (evaluate? formula lookup) := by
  unfold evaluate
  cases evaluate? formula lookup <;> rfl

theorem evaluate_of_call {function : SheetFunction} {arguments : List Char}
    (starts : isFormula formula = true)
    (cut : readCall? (formula.toList.drop 1) = some (function, arguments)) (lookup : Lookup) :
    evaluate formula lookup = resultText (call function lookup arguments) := by
  have called : evaluate? formula lookup = call function lookup arguments := by
    simp only [evaluate?, starts, if_true, cut]
  rw [evaluate_eq_resultText, called]

theorem reads_of_call {function : SheetFunction} {arguments : List Char}
    (starts : isFormula formula = true)
    (cut : readCall? (formula.toList.drop 1) = some (function, arguments)) :
    reads formula = callReads function arguments := by
  rw [reads, if_pos starts, cut]

/-- The lookup with a single value. -/
def only (id text : String) : Lookup :=
  Function.update nowhere id (some text)

theorem textOperand_nowhere (operand : List Char) : textOperand nowhere operand = [] :=
  rfl

theorem textOperand_only {operand : List Char} (names : operandId operand = id) (text : String) :
    textOperand (only id text) operand = text.toList := by
  have found : only id text (operandId operand) = some text := by
    rw [names]
    exact Function.update_self _ _ _
  rw [textOperand, found, Option.getD_some]

theorem texts_of_rangeReads {arguments : List Char} (member : id ∈ rangeReads arguments)
    (lookup : Lookup) : texts lookup arguments = .ok ((rangeReads arguments).filterMap lookup) := by
  unfold rangeReads at member ⊢
  unfold texts
  cases found : rangeCells arguments with
  | error error =>
    rw [found] at member
    cases member
  | ok ids => rfl

theorem filterMap_nowhere (ids : List String) : ids.filterMap nowhere = [] :=
  List.filterMap_eq_nil_iff.mpr fun _ _ => rfl

theorem replaceAll_singleton {sought replacement : List Char} {c : Char} (nonempty : sought ≠ [])
    (different : sought ≠ [c]) : Text.replaceAll sought replacement [c] = [c] := by
  have absent : Text.literalMeasure sought [c] = 0 := by
    unfold Text.literalMeasure
    split
    · next begins =>
      rcases List.prefix_cons_iff.mp (List.isPrefixOf_iff_prefix.mp begins) with
        empty | ⟨tail, shape, rest⟩
      · exact absurd empty nonempty
      · rw [List.prefix_nil.mp rest] at shape
        exact absurd shape different
    · rfl
  rw [Text.replaceAll, Text.mapFound, Text.pieces, absent]
  simp [Text.pieces]

theorem ne_empty_of_mem_toList {text : String} {c : Char} (member : c ∈ text.toList) :
    text ≠ "" := by
  rintro rfl
  cases member

theorem mem_filterMap_only {ids : List String} (member : id ∈ ids) (text : String) :
    text ∈ ids.filterMap (only id text) :=
  List.mem_filterMap.mpr ⟨id, member, Function.update_self _ _ _⟩

theorem eq_of_mem_filterMap_only {ids : List String} {text other : String}
    (member : other ∈ ids.filterMap (only id text)) : other = text := by
  rcases List.mem_filterMap.mp member with ⟨read, _, found⟩
  by_cases same : read = id
  · rw [same, only, Function.update_self] at found
    exact (Option.some.inj found).symm
  · rw [only, Function.update_of_ne same] at found
    cases found

theorem findAndReplace_of_ne {arguments : List Char}
    (different : ∀ target find replacement,
      (Text.split ',' arguments).map Text.trim ≠ [target, find, replacement]) (lookup : Lookup) :
    findAndReplace lookup arguments = .error .fault := by
  unfold findAndReplace
  split
  · next target find replacement parts => exact absurd parts (different target find replacement)
  · rfl

theorem findAndReplace_of_parts {arguments target find replacement : List Char}
    (parts : (Text.split ',' arguments).map Text.trim = [target, find, replacement])
    (lookup : Lookup) :
    findAndReplace lookup arguments =
      if textOperand lookup target = [] ∨ Text.upper (unquote find) = [] then
        .ok (String.ofList (textOperand lookup target))
      else .ok (String.ofList (Text.replaceAll (Text.upper (unquote find))
        (Text.upper (unquote replacement)) (textOperand lookup target))) := by
  rw [findAndReplace, parts]

theorem operandId_of_callReads_findAndReplace {arguments target : List Char}
    {more : List (List Char)} (member : id ∈ callReads .findAndReplace arguments)
    (parts : (Text.split ',' arguments).map Text.trim = target :: more) :
    operandId target = id := by
  rcases List.mem_map.mp member with ⟨piece, early, rfl⟩
  cases pieces : Text.split ',' arguments with
  | nil =>
    rw [pieces] at parts
    cases parts
  | cons first rest =>
    rw [pieces] at parts early
    rcases List.mem_singleton.mp early
    rw [← (List.cons.inj parts).1]
    rfl

/-- A one-letter literal that is not the one sought stays as it is. -/
theorem exists_literal_findAndReplace {arguments : List Char}
    (member : id ∈ callReads .findAndReplace arguments)
    (varies : findAndReplace first arguments ≠ findAndReplace second arguments) :
    ∃ text value, Literal text ∧ findAndReplace nowhere arguments = .ok "" ∧
      findAndReplace (only id text) arguments = .ok value ∧ value ≠ "" := by
  by_cases shape : ∃ target find replacement,
      (Text.split ',' arguments).map Text.trim = [target, find, replacement]
  · rcases shape with ⟨target, find, replacement, parts⟩
    have names := operandId_of_callReads_findAndReplace member parts
    have blank : findAndReplace nowhere arguments = .ok "" := by
      rw [findAndReplace_of_parts parts, if_pos (.inl (textOperand_nowhere target)),
        textOperand_nowhere, String.ofList_nil]
    have keeps (c : Char) (different : Text.upper (unquote find) ≠ [c]) :
        findAndReplace (only id (String.ofList [c])) arguments = .ok (String.ofList [c]) := by
      rw [findAndReplace_of_parts parts, textOperand_only names, String.toList_ofList]
      split
      · rfl
      · next filled =>
        rw [replaceAll_singleton (fun empty => filled (.inr empty)) different]
    by_cases one : Text.upper (unquote find) = ['1']
    · have two : Text.upper (unquote find) ≠ ['2'] := by
        rw [one]
        decide
      exact ⟨_, _, by decide, blank, keeps '2' two, by decide⟩
    · exact ⟨_, _, by decide, blank, keeps '1' one, by decide⟩
  · have different : ∀ target find replacement,
        (Text.split ',' arguments).map Text.trim ≠ [target, find, replacement] :=
      fun target find replacement parts => shape ⟨target, find, replacement, parts⟩
    rw [findAndReplace_of_ne different, findAndReplace_of_ne different] at varies
    exact absurd rfl varies

/-- A literal in a cell that a function of texts looks up shows, unless the
function is an error whatever the cells hold. -/
theorem exists_literal_call {function : SheetFunction} {arguments : List Char}
    (isText : IsNumeric function = false) (member : id ∈ callReads function arguments)
    (varies : call function first arguments ≠ call function second arguments) :
    ∃ text value, Literal text ∧ call function nowhere arguments = .ok "" ∧
      call function (only id text) arguments = .ok value ∧ value ≠ "" := by
  cases function with
  | sum | average | max | min | count | stdev | product | power | round => cases isText
  | trim | upper | lower =>
    rcases List.mem_singleton.mp member
    exact ⟨"1", _, by decide, rfl, rfl, by simp only [textOperand_only rfl]; decide⟩
  | removeDuplicates =>
    change id ∈ rangeReads arguments at member
    refine ⟨"1", ",".intercalate (distinct ((rangeReads arguments).filterMap (only id "1"))),
      by decide, ?_, ?_, ?_⟩
    · rw [call, texts_of_rangeReads member, filterMap_nowhere]
      rfl
    · rw [call, texts_of_rangeReads member]
      rfl
    · rw [distinct_eq_singleton (mem_filterMap_only member "1")
        fun other listed => eq_of_mem_filterMap_only listed, String.intercalate_singleton]
      decide
  | findAndReplace => exact exists_literal_findAndReplace member varies
  | concatenate =>
    change id ∈ rangeReads arguments at member
    refine ⟨"1", String.join ((rangeReads arguments).filterMap (only id "1")), by decide, ?_, ?_, ?_⟩
    · rw [call, texts_of_rangeReads member, filterMap_nowhere]
      rfl
    · rw [call, texts_of_rangeReads member]
      rfl
    · have shown : '1' ∈ (String.join ((rangeReads arguments).filterMap (only id "1"))).toList := by
        rw [String.toList_join]
        exact List.mem_flatMap.mpr ⟨"1", mem_filterMap_only member "1", by decide⟩
      exact ne_empty_of_mem_toList shown

/-! ## Blind formulas are covered -/

section

variable {function : SheetFunction} {arguments : List Char} (blind : Blind Cell formula)
  (starts : isFormula formula = true)
  (cut : readCall? (formula.toList.drop 1) = some (function, arguments))
  (missing : ∀ id, ¬Cell id → first id = none ∧ second id = none)
  (agree : ∀ read ∈ precedents formula, first read = second read)

include blind starts cut missing agree

/-- A blind function of numbers has the same value over lookups that agree on
the precedents: only the numbers in them count, and these are literals. -/
theorem Blind.evaluate_eq_of_isNumeric (isNumeric : IsNumeric function = true) :
    evaluate formula first = evaluate formula second := by
  rw [evaluate_of_call starts cut, evaluate_of_call starts cut, ← call_numeric isNumeric first,
    ← call_numeric isNumeric second, ← evaluate_of_call starts cut, ← evaluate_of_call starts cut]
  refine blind.evaluate_eq (literalOn_numeric fun id outside => (missing id outside).1)
    (literalOn_numeric fun id outside => (missing id outside).2) fun read named => ?_
  rw [numeric, numeric, agree read named]

/-- A blind function of texts has the same value over lookups that agree on the
precedents: it looks up no other cell, for a literal in that cell would
show. -/
theorem Blind.evaluate_eq_of_not_isNumeric (isText : IsNumeric function = false)
    (member : id ∈ reads formula) (different : first id ≠ second id) :
    evaluate formula first = evaluate formula second := by
  by_contra varies
  have cell : Cell id := by
    by_contra outside
    exact different ((missing id outside).1.trans (missing id outside).2.symm)
  rw [reads_of_call starts cut] at member
  rw [evaluate_of_call starts cut, evaluate_of_call starts cut] at varies
  rcases exists_literal_call isText member fun same => varies (by rw [same]) with
    ⟨text, value, isLiteral, blank, shown, filled⟩
  have same := blind nowhere id text literalOn_nowhere cell
    (fun named => different (agree id named)) rfl isLiteral
  rw [evaluate_of_call starts cut, evaluate_of_call starts cut, blank] at same
  change "" = resultText (call function (only id text) arguments) at same
  rw [shown] at same
  exact filled same.symm

end

/-- A formula that is blind outside its precedents is covered. -/
theorem coveredOn_of_blind (blind : Blind Cell formula) : CoveredOn Cell formula := by
  intro first second missing agree
  by_cases looks : ∃ id ∈ reads formula, first id ≠ second id
  · rcases looks with ⟨id, member, different⟩
    have starts : isFormula formula = true := by
      by_contra plain
      rw [reads, if_neg plain] at member
      cases member
    cases cut : readCall? (formula.toList.drop 1) with
    | none =>
      rw [reads, if_pos starts, cut] at member
      cases member
    | some parts =>
      cases kind : IsNumeric parts.1 with
      | true => exact blind.evaluate_eq_of_isNumeric starts cut missing agree kind
      | false =>
        exact blind.evaluate_eq_of_not_isNumeric starts cut missing agree kind member different
  · refine evaluate_congr fun id member => ?_
    by_contra different
    exact looks ⟨id, member, different⟩

end Formula
end Worksheet
