import Worksheet.Formula.Evaluation
import Worksheet.Proofs.Decimal.Order
import Worksheet.Proofs.Numeral
import Worksheet.Proofs.Reference.Character
import Worksheet.Proofs.Text.Cutting

namespace Worksheet

/-!
How formulas fail.  A formula that is no call of the catalogue is invalid.  A
call fails for a reason that can be told from its arguments and the values of
the cells they name: the range is too large, an operand is missing or no number,
or too few numbers were found, as many as `COUNT` says for the same arguments.
-/

open Binary64

/-! ## Names -/

namespace SheetFunction

variable {function other : SheetFunction} {name : List Char}

/-- Whether a name is that of a function but for the case of ASCII letters. -/
def IsNamed (function : SheetFunction) (name : List Char) : Prop :=
  name.map Char.toUpper = function.name.toList.map Char.toUpper

theorem map_toUpper_name (function : SheetFunction) :
    function.name.toList.map Char.toUpper = function.name.toList := by
  cases function <;> decide

theorem name_injective (same : function.name.toList = other.name.toList) : function = other := by
  have distinct : ∀ first ∈ all, ∀ second ∈ all,
      first.name.toList = second.name.toList → first = second := by
    decide
  exact distinct function (mem_all function) other (mem_all other) same

theorem ofName?_eq_some_iff : ofName? name = some function ↔ function.IsNamed name := by
  rw [IsNamed, map_toUpper_name]
  constructor
  · intro found
    have spelled := List.find?_some found
    exact (of_decide_eq_true spelled).symm
  · intro named
    have exists_ : (ofName? name).isSome := by
      rw [ofName?, List.find?_isSome]
      exact ⟨function, mem_all function, decide_eq_true named.symm⟩
    rcases Option.isSome_iff_exists.mp exists_ with ⟨other, found⟩
    have spelled := List.find?_some found
    rw [found, name_injective (named.symm.trans (of_decide_eq_true spelled).symm)]

/-- Whether a function takes a range. -/
def takesRange : SheetFunction → Bool
  | power | round | trim | upper | lower | findAndReplace => false
  | sum | average | max | min | count | stdev | product | removeDuplicates | concatenate => true

end SheetFunction

namespace Formula

open Text (trim split beforeLast)

variable {lookup : Lookup} {function : SheetFunction} {arguments rest : List Char}
variable {error : FormulaError} {number : Float} {index count : Nat}

/-! ## Places -/

/-- A number without its fraction. -/
def wholePart (real : ℚ) : ℤ :=
  if real < 0 then ⌈real⌉ else ⌊real⌋

theorem wholePart_bounds (real : ℚ) :
    0 ≤ wholePart real ∧ wholePart real ≤ 100 ↔ -1 < real ∧ real < 101 := by
  have above : -1 < real ↔ -1 < ⌈real⌉ := by rw [Int.lt_ceil, Int.cast_neg, Int.cast_one]
  have below : real < 101 ↔ ⌊real⌋ < 101 := by rw [Int.floor_lt, Int.cast_ofNat]
  unfold wholePart
  split
  next negative =>
    have ceiling : ⌈real⌉ ≤ 0 := Int.ceil_le.mpr (by rw [Int.cast_zero]; exact negative.le)
    have small : real < 101 := negative.trans (by norm_num)
    rw [above, and_iff_left small]
    omega
  next nonneg =>
    have floor : 0 ≤ ⌊real⌋ := Int.floor_nonneg.mpr (not_lt.mp nonneg)
    have large : -1 < real := lt_of_lt_of_le (by norm_num) (not_lt.mp nonneg)
    rw [below, and_iff_right large]
    omega

theorem toRat?_minusOne : toRat? (-1) = some (-1) := by
  have pattern : kind (-1) = .finite true 0x3FF0000000000000 := by decide +kernel
  have parts : exact 0x3FF0000000000000 = ⟨2 ^ 52, -52⟩ := by decide +kernel
  refine toRat?_eq_some_iff.mpr ⟨true, _, pattern, ?_⟩
  rw [if_pos rfl, value, parts, Binary64.Dyadic.toRat]
  norm_num

theorem toRat?_hundredOne : toRat? 101 = some 101 := by
  have pattern : kind 101 = .finite false 0x4059400000000000 := by decide +kernel
  have parts : exact 0x4059400000000000 = ⟨101 * 2 ^ 46, -46⟩ := by decide +kernel
  refine toRat?_eq_some_iff.mpr ⟨false, _, pattern, ?_⟩
  rw [if_neg Bool.false_ne_true, value, parts, Binary64.Dyadic.toRat]
  norm_num

/-- A number asks for places exactly if it is one and its whole part is at least
zero and at most a hundred. -/
theorem places?_isSome_iff : (places? number).isSome = true ↔
    ∃ real, toRat? number = some real ∧ 0 ≤ wholePart real ∧ wholePart real ≤ 100 := by
  have between : (places? number).isSome = true ↔ -1 < number ∧ number < 101 := by
    unfold places?
    split
    next inside => exact iff_of_true rfl inside
    next outside => exact iff_of_false Bool.false_ne_true outside
  -- Between two doubles lie only numbers, and these compare as rationals do.
  rw [between]
  constructor
  · rintro ⟨above, below⟩
    rcases exists_toRat?_of_between above below with ⟨real, finite⟩
    rw [lt_iff_toRat?_lt toRat?_minusOne finite] at above
    rw [lt_iff_toRat?_lt finite toRat?_hundredOne] at below
    exact ⟨real, finite, (wholePart_bounds real).mpr ⟨above, below⟩⟩
  · rintro ⟨real, finite, bounds⟩
    rw [lt_iff_toRat?_lt toRat?_minusOne finite, lt_iff_toRat?_lt finite toRat?_hundredOne]
    exact (wholePart_bounds real).mp bounds

/-! ## Arguments -/

/-- Whether a number is found for one of the parts of the arguments between commas:
the part names a cell, and its value begins with the number. -/
def IsOperand (lookup : Lookup) (arguments : List Char) (index : Nat) (number : Float) : Prop :=
  ∃ part text, (split ',' arguments)[index]? = some part ∧
    (Address.parse? (operandId part)).isSome ∧ lookup (operandId part) = some text ∧
      Number.parse? text = some number

/-- Whether `COUNT` finds so many numbers. -/
def Counts (lookup : Lookup) (arguments : List Char) (count : Nat) : Prop :=
  call .count lookup arguments = .ok (Numeral.text count)

/-- Why a call has no value, with the error that it gives. -/
inductive CallFails (lookup : Lookup) (arguments : List Char) :
    SheetFunction → FormulaError → Prop
  | tooLarge {function : SheetFunction} {excess : RangeError} (range : function.takesRange)
      (large : Range.expand (arguments.map Char.toUpper) = .error excess) :
    CallFails lookup arguments function .fault
  | operand {function : SheetFunction} {index : Nat}
      (scalar : function = .power ∨ function = .round) (early : index < 2)
      (missing : ¬∃ number, IsOperand lookup arguments index number) :
    CallFails lookup arguments function .fault
  | places {number : Float} (given : IsOperand lookup arguments 1 number)
      (outside : ¬∃ real, toRat? number = some real ∧
        0 ≤ wholePart real ∧ wholePart real ≤ 100) :
    CallFails lookup arguments .round .fault
  | parts (different : (split ',' arguments).length ≠ 3) :
    CallFails lookup arguments .findAndReplace .fault
  | noMean (none : Counts lookup arguments 0) :
    CallFails lookup arguments .average .divisionByZero
  | noExtreme {function : SheetFunction} (extreme : function = .max ∨ function = .min)
      (none : Counts lookup arguments 0) :
    CallFails lookup arguments function .notAvailable
  | noDeviation {count : Nat} (few : count < 2) (counted : Counts lookup arguments count) :
    CallFails lookup arguments .stdev .notAvailable

/-! ## Operands and ranges -/

theorem bind_eq_error_iff {α β : Type} {value : Except FormulaError α}
    {next : α → Except FormulaError β} : value >>= next = .error error ↔
      value = .error error ∨ ∃ found, value = .ok found ∧ next found = .error error := by
  cases value with
  | error other =>
    change Except.error other = _ ↔ _
    simp only [reduceCtorEq, Except.error.injEq, false_and, exists_false, or_false]
  | ok found =>
    change next found = _ ↔ _
    simp only [reduceCtorEq, Except.ok.injEq, exists_eq_left', false_or]

theorem numberOperand_eq_ok_iff :
    numberOperand lookup (split ',' arguments)[index]? = .ok number ↔
      IsOperand lookup arguments index number := by
  unfold numberOperand IsOperand
  cases (split ',' arguments)[index]? with
  | none => simp only [reduceCtorEq, false_and, exists_false]
  | some part =>
    simp only [Option.some.injEq, exists_and_left, exists_eq_left', ← Option.bind_eq_some_iff]
    cases Address.parse? (operandId part) with
    | none => simp only [Option.isNone_none, if_true, reduceCtorEq, Option.isSome_none,
        Bool.false_eq_true, false_and]
    | some address =>
      cases (lookup (operandId part)).bind Number.parse? <;>
        simp only [Option.isNone_some, Bool.false_eq_true, if_false, Option.isSome_some, true_and,
          reduceCtorEq, Except.ok.injEq, Option.some.injEq]

/-- An operand that is no number is a fault. -/
theorem numberOperand_eq_error_iff :
    numberOperand lookup (split ',' arguments)[index]? = .error error ↔
      error = .fault ∧ ¬∃ number, IsOperand lookup arguments index number := by
  simp only [← numberOperand_eq_ok_iff]
  cases value : numberOperand lookup (split ',' arguments)[index]? with
  | ok number => simp only [reduceCtorEq, Except.ok.injEq, exists_eq', not_true_eq_false, and_false]
  | error other =>
    rw [eq_fault_of_numberOperand value]
    simp only [Except.error.injEq, reduceCtorEq, exists_false, not_false_eq_true, and_true, eq_comm]

theorem rangeCells_eq_error_iff : rangeCells arguments = .error error ↔
    error = .fault ∧ ∃ excess, Range.expand (arguments.map Char.toUpper) = .error excess := by
  unfold rangeCells
  cases Range.expand (arguments.map Char.toUpper) with
  | ok ids => simp only [reduceCtorEq, exists_false, and_false]
  | error excess => simp only [Except.error.injEq, exists_eq', and_true, eq_comm]

theorem numbers_eq_error_iff : numbers lookup arguments = .error error ↔
    error = .fault ∧ ∃ excess, Range.expand (arguments.map Char.toUpper) = .error excess := by
  rw [← rangeCells_eq_error_iff, numbers, bind_eq_error_iff]
  exact or_iff_left fun ⟨_, _, result⟩ => nomatch result

theorem texts_eq_error_iff : texts lookup arguments = .error error ↔
    error = .fault ∧ ∃ excess, Range.expand (arguments.map Char.toUpper) = .error excess := by
  rw [← rangeCells_eq_error_iff, texts, bind_eq_error_iff]
  exact or_iff_left fun ⟨_, _, result⟩ => nomatch result

/-- `COUNT` says how many numbers a range has. -/
theorem counts_iff : Counts lookup arguments count ↔
    ∃ found, numbers lookup arguments = .ok found ∧ found.length = count := by
  unfold Counts call
  cases numbers lookup arguments with
  | error error =>
    refine iff_of_false (fun counted => nomatch counted) ?_
    rintro ⟨_, found, _⟩
    cases found
  | ok found =>
    change Except.ok (Numeral.text found.length) = _ ↔ _
    simp only [Except.ok.injEq, exists_eq_left', Numeral.text_inj]

theorem combine?_eq_error_iff {choose : Float → Float → Float} {found : List Float} :
    combine? choose found = .error error ↔ error = .notAvailable ∧ found.length = 0 := by
  cases found with
  | nil => simp only [combine?, Except.error.injEq, List.length_nil, and_true, eq_comm]
  | cons first rest =>
    simp only [combine?, reduceCtorEq, List.length_cons, Nat.add_eq_zero_iff, Nat.one_ne_zero,
      and_false]

theorem findAndReplace_eq_error_iff : findAndReplace lookup arguments = .error error ↔
    error = .fault ∧ (split ',' arguments).length ≠ 3 := by
  have length : ((split ',' arguments).map trim).length = (split ',' arguments).length :=
    List.length_map _
  rw [← length]
  unfold findAndReplace
  split
  next parts =>
    rw [parts]
    dsimp only
    split <;> simp
  next other =>
    have different : ((split ',' arguments).map trim).length ≠ 3 := by
      intro three
      rcases List.length_eq_three.mp three with ⟨target, find, replacement, parts⟩
      exact other target find replacement parts
    simp only [Except.error.injEq, ne_eq, different, not_false_eq_true, and_true, eq_comm]

/-! ## Calls -/

theorem tooLarge_of_numbers (range : function.takesRange)
    (failed : numbers lookup arguments = .error error) :
    CallFails lookup arguments function error := by
  rcases numbers_eq_error_iff.mp failed with ⟨rfl, excess, large⟩
  exact .tooLarge range large

theorem tooLarge_of_texts (range : function.takesRange)
    (failed : texts lookup arguments = .error error) :
    CallFails lookup arguments function error := by
  rcases texts_eq_error_iff.mp failed with ⟨rfl, excess, large⟩
  exact .tooLarge range large

theorem operand_of_numberOperand (scalar : function = .power ∨ function = .round)
    (early : index < 2)
    (failed : numberOperand lookup (split ',' arguments)[index]? = .error error) :
    CallFails lookup arguments function error := by
  rcases numberOperand_eq_error_iff.mp failed with ⟨rfl, missing⟩
  exact .operand scalar early missing

theorem noExtreme_of_combine {choose : Float → Float → Float} {found : List Float}
    (extreme : function = .max ∨ function = .min) (counted : numbers lookup arguments = .ok found)
    (failed : combine? choose found = .error error) :
    CallFails lookup arguments function error := by
  rcases combine?_eq_error_iff.mp failed with ⟨rfl, empty⟩
  exact .noExtreme extreme (counts_iff.mpr ⟨found, counted, empty⟩)

/-- A call that fails does so for one of the reasons. -/
theorem callFails_of_call (failed : call function lookup arguments = .error error) :
    CallFails lookup arguments function error := by
  cases function with
  | sum | count | product =>
    rcases bind_eq_error_iff.mp failed with large | ⟨_, _, result⟩
    · exact tooLarge_of_numbers rfl large
    · cases result
  | removeDuplicates | concatenate =>
    rcases bind_eq_error_iff.mp failed with large | ⟨_, _, result⟩
    · exact tooLarge_of_texts rfl large
    · cases result
  | trim | upper | lower => cases failed
  | average =>
    rcases bind_eq_error_iff.mp failed with large | ⟨found, counted, result⟩
    · exact tooLarge_of_numbers rfl large
    · split at result
      next empty =>
        cases result
        have none : found.length = 0 := List.length_eq_zero_iff.mpr (List.isEmpty_iff.mp empty)
        exact .noMean (counts_iff.mpr ⟨found, counted, none⟩)
      next => cases result
  | max =>
    rcases bind_eq_error_iff.mp failed with large | ⟨found, counted, result⟩
    · exact tooLarge_of_numbers rfl large
    · rcases bind_eq_error_iff.mp result with empty | ⟨_, _, result⟩
      · exact noExtreme_of_combine (.inl rfl) counted empty
      · cases result
  | min =>
    rcases bind_eq_error_iff.mp failed with large | ⟨found, counted, result⟩
    · exact tooLarge_of_numbers rfl large
    · rcases bind_eq_error_iff.mp result with empty | ⟨_, _, result⟩
      · exact noExtreme_of_combine (.inr rfl) counted empty
      · cases result
  | stdev =>
    rcases bind_eq_error_iff.mp failed with large | ⟨found, counted, result⟩
    · exact tooLarge_of_numbers rfl large
    · split at result
      next few =>
        cases result
        exact .noDeviation few (counts_iff.mpr ⟨found, counted, rfl⟩)
      next => cases result
  | power =>
    rcases bind_eq_error_iff.mp failed with missing | ⟨_, _, result⟩
    · exact operand_of_numberOperand (.inl rfl) Nat.zero_lt_two missing
    · rcases bind_eq_error_iff.mp result with missing | ⟨_, _, result⟩
      · exact operand_of_numberOperand (.inl rfl) Nat.one_lt_two missing
      · cases result
  | round =>
    rcases bind_eq_error_iff.mp failed with missing | ⟨_, _, result⟩
    · exact operand_of_numberOperand (.inr rfl) Nat.zero_lt_two missing
    · rcases bind_eq_error_iff.mp result with missing | ⟨asked, given, result⟩
      · exact operand_of_numberOperand (.inr rfl) Nat.one_lt_two missing
      · split at result
        next => cases result
        next none =>
          cases result
          refine .places (numberOperand_eq_ok_iff.mp given) fun inside => ?_
          rw [← places?_isSome_iff, none] at inside
          cases inside
  | findAndReplace =>
    rcases findAndReplace_eq_error_iff.mp failed with ⟨rfl, different⟩
    exact .parts different

/-- Two operands of which one is no number are a fault, whatever is done with
them. -/
theorem operands_of_missing (next : Float → Float → Except FormulaError String)
    (early : index < 2) (missing : ¬∃ number, IsOperand lookup arguments index number) :
    (numberOperand lookup (split ',' arguments)[0]? >>= fun first =>
      numberOperand lookup (split ',' arguments)[1]? >>= next first) = .error .fault := by
  -- The first operand is read first, and without it the error is the same.
  by_cases given : ∃ number, IsOperand lookup arguments 0 number
  · have second : index = 1 := by
      by_contra other
      have first : index = 0 := by omega
      exact missing (first ▸ given)
    rcases given with ⟨first, isFirst⟩
    rw [second] at missing
    exact bind_eq_error_iff.mpr (.inr ⟨first, numberOperand_eq_ok_iff.mpr isFirst,
      bind_eq_error_iff.mpr (.inl (numberOperand_eq_error_iff.mpr ⟨rfl, missing⟩))⟩)
  · exact bind_eq_error_iff.mpr (.inl (numberOperand_eq_error_iff.mpr ⟨rfl, given⟩))

/-- Each of the reasons makes a call fail. -/
theorem call_of_callFails (fails : CallFails lookup arguments function error) :
    call function lookup arguments = .error error := by
  cases fails with
  | tooLarge range large =>
    have noNumbers : numbers lookup arguments = .error .fault :=
      numbers_eq_error_iff.mpr ⟨rfl, _, large⟩
    have noTexts : texts lookup arguments = .error .fault :=
      texts_eq_error_iff.mpr ⟨rfl, _, large⟩
    cases function with
    | power | round | trim | upper | lower | findAndReplace => cases range
    | sum | average | max | min | count | stdev | product =>
      exact bind_eq_error_iff.mpr (.inl noNumbers)
    | removeDuplicates | concatenate => exact bind_eq_error_iff.mpr (.inl noTexts)
  | operand scalar early missing =>
    rcases scalar with rfl | rfl
    · exact operands_of_missing _ early missing
    · exact operands_of_missing _ early missing
  | places given outside =>
    by_cases first : ∃ number, IsOperand lookup arguments 0 number
    · rcases first with ⟨number, isFirst⟩
      have none : places? _ = none :=
        Option.not_isSome_iff_eq_none.mp (mt places?_isSome_iff.mp outside)
      refine bind_eq_error_iff.mpr (.inr ⟨number, numberOperand_eq_ok_iff.mpr isFirst,
        bind_eq_error_iff.mpr (.inr ⟨_, numberOperand_eq_ok_iff.mpr given, ?_⟩)⟩)
      rw [none]
      rfl
    · exact operands_of_missing _ Nat.zero_lt_two first
  | parts different => exact findAndReplace_eq_error_iff.mpr ⟨rfl, different⟩
  | noMean none =>
    rcases counts_iff.mp none with ⟨found, counted, empty⟩
    refine bind_eq_error_iff.mpr (.inr ⟨found, counted, ?_⟩)
    exact if_pos (List.isEmpty_iff.mpr (List.length_eq_zero_iff.mp empty))
  | noExtreme extreme none =>
    rcases counts_iff.mp none with ⟨found, counted, empty⟩
    have failed (choose : Float → Float → Float) : combine? choose found = .error .notAvailable :=
      combine?_eq_error_iff.mpr ⟨rfl, empty⟩
    rcases extreme with rfl | rfl <;>
      exact bind_eq_error_iff.mpr (.inr ⟨found, counted, bind_eq_error_iff.mpr (.inl (failed _))⟩)
  | noDeviation few counted =>
    rcases counts_iff.mp counted with ⟨found, read, rfl⟩
    exact bind_eq_error_iff.mpr (.inr ⟨found, read, if_pos few⟩)

theorem call_eq_error_iff : call function lookup arguments = .error error ↔
    CallFails lookup arguments function error :=
  ⟨callFails_of_call, call_of_callFails⟩

/-! ## Formulas -/

/-- What stands between an opening bracket and the last closing one after it, or
nothing if there is none. -/
inductive Enclosed : List Char → List Char → Prop
  | closed {arguments after : List Char} (last : ')' ∉ after) :
    Enclosed (arguments ++ ')' :: after) arguments
  | unclosed {rest : List Char} (none : ')' ∉ rest) : Enclosed rest []

/-- Why a formula has no value, with the error that it gives. -/
inductive Fails (lookup : Lookup) (formula : String) : FormulaError → Prop
  | noBracket (starts : isFormula formula)
      (none : '(' ∉ trim (formula.toList.drop 1)) : Fails lookup formula .invalid
  | unknown {name rest : List Char} (starts : isFormula formula)
      (parts : trim (formula.toList.drop 1) = name ++ '(' :: rest) (first : '(' ∉ name)
      (unknown : ∀ function : SheetFunction, ¬function.IsNamed name) :
    Fails lookup formula .invalid
  | call {name rest arguments : List Char} {function : SheetFunction} {error : FormulaError}
      (starts : isFormula formula)
      (parts : trim (formula.toList.drop 1) = name ++ '(' :: rest) (first : '(' ∉ name)
      (named : function.IsNamed name) (enclosed : Enclosed rest arguments)
      (fails : CallFails lookup arguments function error) : Fails lookup formula error

theorem enclosed_iff : Enclosed rest arguments ↔ beforeLast ')' rest = arguments := by
  constructor
  · intro enclosed
    cases enclosed with
    | closed last => exact Text.beforeLast_append_cons last arguments
    | unclosed none => exact Text.beforeLast_of_not_mem none
  · rintro rfl
    rcases Text.beforeLast_cases ')' rest with none | ⟨before, after, rfl, last⟩
    · rw [Text.beforeLast_of_not_mem none]
      exact .unclosed none
    · rw [Text.beforeLast_append_cons last]
      exact .closed last

theorem readCall?_of_parts {body name : List Char} (parts : trim body = name ++ '(' :: rest)
    (first : '(' ∉ name) :
    readCall? body = (SheetFunction.ofName? name).map (·, beforeLast ')' rest) := by
  rw [readCall?, parts, Text.cutAtFirst?_append_cons first, Option.map_eq_bind]
  rfl

theorem readCall?_of_noBracket {body : List Char} (noBracket : '(' ∉ trim body) :
    readCall? body = none := by
  rw [readCall?, Text.cutAtFirst?_of_not_mem noBracket]
  rfl

theorem evaluate?_of_isFormula {formula : String} (starts : isFormula formula = true)
    (lookup : Lookup) : evaluate? formula lookup =
      match readCall? (formula.toList.drop 1) with
      | some (function, arguments) => call function lookup arguments
      | none => .error .invalid :=
  if_pos starts

theorem evaluate?_of_not_isFormula {formula : String} (plain : isFormula formula = false)
    (lookup : Lookup) : evaluate? formula lookup = .ok formula :=
  if_neg (Bool.eq_false_iff.mp plain)

theorem fails_of_evaluate? {formula : String} (failed : evaluate? formula lookup = .error error) :
    Fails lookup formula error := by
  cases starts : isFormula formula with
  | false =>
    rw [evaluate?_of_not_isFormula starts] at failed
    cases failed
  | true =>
    rw [evaluate?_of_isFormula starts] at failed
    by_cases bracket : '(' ∈ trim (formula.toList.drop 1)
    · rcases List.eq_append_cons_of_mem bracket with ⟨name, rest, parts, first⟩
      rw [readCall?_of_parts parts first] at failed
      cases found : SheetFunction.ofName? name with
      | none =>
        rw [found] at failed
        cases failed
        refine .unknown starts parts first fun function named => ?_
        cases found.symm.trans (SheetFunction.ofName?_eq_some_iff.mpr named)
      | some function =>
        rw [found] at failed
        exact .call starts parts first (SheetFunction.ofName?_eq_some_iff.mp found)
          (enclosed_iff.mpr rfl) (call_eq_error_iff.mp failed)
    · rw [readCall?_of_noBracket bracket] at failed
      cases failed
      exact .noBracket starts bracket

theorem evaluate?_of_fails {formula : String} (fails : Fails lookup formula error) :
    evaluate? formula lookup = .error error := by
  cases fails with
  | noBracket starts none =>
    rw [evaluate?_of_isFormula starts, readCall?_of_noBracket none]
  | @unknown name rest starts parts first unknown =>
    have noFunction : SheetFunction.ofName? name = none :=
      Option.eq_none_iff_forall_ne_some.mpr fun function found =>
        unknown function (SheetFunction.ofName?_eq_some_iff.mp found)
    rw [evaluate?_of_isFormula starts, readCall?_of_parts parts first, noFunction]
    rfl
  | call starts parts first named enclosed fails =>
    rw [evaluate?_of_isFormula starts, readCall?_of_parts parts first,
      SheetFunction.ofName?_eq_some_iff.mpr named, enclosed_iff.mp enclosed]
    exact call_of_callFails fails

/-- A text that is no formula is its own value.  The evaluation of a formula fails
exactly for the reasons above, with the error of each, and never with a cycle. -/
theorem evaluate?_fails_iff (formula : String) (lookup : Lookup) :
    (isFormula formula = false → evaluate? formula lookup = .ok formula) ∧
      (∀ error, evaluate? formula lookup = .error error ↔ Fails lookup formula error) ∧
      evaluate? formula lookup ≠ .error .circular := by
  refine ⟨fun plain => evaluate?_of_not_isFormula plain lookup,
    fun error => ⟨fails_of_evaluate?, evaluate?_of_fails⟩, fun circular => ?_⟩
  cases fails_of_evaluate? circular with
  | call _ _ _ _ _ fails => cases fails

theorem evaluate?_fails_for_places :
    let lookup : Lookup := fun id =>
      if id = "B2" then some "2.5" else if id = "C3" then some "100.9" else some "101"
    evaluate? "'=ROUND(B2,C4)" lookup = .ok "'=ROUND(B2,C4)" ∧
      ¬Fails lookup "= Round( $b2 , c3)" .fault ∧ Fails lookup "= Round( $b2 , c4)" .fault := by
  intro lookup
  have plain : isFormula "'=ROUND(B2,C4)" = false := by decide
  have rounded : evaluate? "= Round( $b2 , c3)" lookup ≠ .error .fault := by decide +kernel
  have failed : evaluate? "= Round( $b2 , c4)" lookup = .error .fault := by decide +kernel
  refine ⟨(evaluate?_fails_iff _ lookup).1 plain, fun fails => rounded ?_, ?_⟩
  · exact ((evaluate?_fails_iff _ lookup).2.1 .fault).mpr fails
  · exact ((evaluate?_fails_iff _ lookup).2.1 .fault).mp failed

end Formula
end Worksheet
