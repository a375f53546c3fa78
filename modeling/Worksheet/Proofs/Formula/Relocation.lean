import Worksheet.Proofs.Formula.Shift
import Worksheet.Proofs.Layout
import Worksheet.Proofs.Range
import Worksheet.Proofs.Rectangle

namespace Worksheet
namespace Formula

/-!
Relocated formulas.  If the cells that a formula reads are moved and the formula
is shifted by the same distance, its value stays.  The shifted arguments are cut
at the same commas and colons, a part that names a cell names the moved cell,
and a part that names none still names none.
-/

open Reference (IsToken isTokenChar changed dropDollars tokenMeasure keepsShape_shiftToken)
open Text (Delimited split trim)
open Range (partId)

/-- Whether the text of arguments can be moved by columns and rows: it has no
quote, no dollar sign and no lower-case letter, and each token in it is the
spelling of a reference that stays on the sheet. -/
structure MovableArguments (columns rows : Int) (text : List Char) : Prop where
  noQuote : ∀ c ∈ text, isQuote c = false
  noDollar : '$' ∉ text
  noLower : ∀ c ∈ text, c.isLower = false
  tokens : ∀ token ∈ Text.findAll tokenMeasure text, ∃ reference,
    Reference.ofChars? token = some reference ∧ reference.chars = token ∧
      reference.address.Movable columns rows

/-- Whether a lookup has the values of another at the cells moved by columns and
rows, and neither has a value at a name that is not canonical. -/
structure Relocated (columns rows : Int) (first second : Lookup) : Prop where
  strangeFirst : ∀ id, canonicalId id ≠ id → first id = none
  strangeSecond : ∀ id, canonicalId id ≠ id → second id = none
  moved : ∀ address : Address, address.OnSheet → address.Movable columns rows →
    second (address.shift columns rows).id = first address.id

/-- A text with its tokens moved by columns and rows. -/
abbrev moved (columns rows : Int) (text : List Char) : List Char :=
  changed (shiftToken columns rows) text

variable {columns rows : Int} {text part arguments : List Char} {first second : Lookup}

/-! ## Parts of arguments -/

theorem moved_append_colon (corner rest : List Char) :
    moved columns rows (corner ++ ':' :: rest) =
      moved columns rows corner ++ ':' :: moved columns rows rest :=
  Reference.changed_append_cons rfl corner rest

theorem mem_moved_iff {mark : Char} (notUpper : mark.isUpper = false)
    (notDigit : mark.isDigit = false) : mark ∈ moved columns rows text ↔ mark ∈ text :=
  (keepsShape_shiftToken columns rows).mem_changed_iff notUpper notDigit

theorem split_moved {separator : Char} (outside : isTokenChar separator = false)
    (text : List Char) :
    split separator (moved columns rows text) =
      (split separator text).map (moved columns rows) :=
  (keepsShape_shiftToken columns rows).split_changed outside text

theorem MovableArguments.of_delimited (movable : MovableArguments columns rows text)
    (delimited : Delimited (isTokenChar · = false) part text) :
    MovableArguments columns rows part where
  noQuote := fun c member => movable.noQuote c (delimited.subset member)
  noDollar := fun member => movable.noDollar (delimited.subset member)
  noLower := fun c member => movable.noLower c (delimited.subset member)
  tokens := fun token found => movable.tokens token
    (Text.mem_findAll_of_delimited Reference.bounded_tokenMeasure
      (fun _ outside => Reference.separates_tokenMeasure outside) delimited found)

theorem MovableArguments.of_mem_split {separator : Char}
    (movable : MovableArguments columns rows text) (outside : isTokenChar separator = false)
    (member : part ∈ split separator text) :
    MovableArguments columns rows part :=
  movable.of_delimited ((Text.delimited_of_mem_split member).mono fun _ same => same ▸ outside)

theorem MovableArguments.trim (movable : MovableArguments columns rows text) :
    MovableArguments columns rows (Text.trim text) :=
  movable.of_delimited ((Text.delimited_trim text).mono fun _ blank =>
    Reference.isTokenChar_of_isBlank blank)

theorem MovableArguments.noDollar_moved (movable : MovableArguments columns rows text) :
    '$' ∉ moved columns rows text :=
  mt (mem_moved_iff rfl rfl).mp movable.noDollar

theorem MovableArguments.noLower_moved (movable : MovableArguments columns rows text) :
    ∀ c ∈ moved columns rows text, c.isLower = false := by
  intro c member
  rw [Bool.eq_false_iff]
  intro lower
  have notUpper : c.isUpper = false := by
    rw [Reference.isLower_iff] at lower
    rw [Bool.eq_false_iff, ne_eq, Reference.isUpper_iff]
    omega
  have notDigit : c.isDigit = false := by
    rw [Reference.isLower_iff] at lower
    rw [Bool.eq_false_iff, ne_eq, Reference.isDigit_iff]
    omega
  rw [movable.noLower c ((mem_moved_iff notUpper notDigit).mp member)] at lower
  cases lower

/-! ## Named cells -/

/-- A text that can be moved is the spelling of an address, moved with it, or
no token, before and after the move. -/
theorem MovableArguments.cases (movable : MovableArguments columns rows text) :
    (∃ address : Address, text = address.chars ∧ address.OnSheet ∧ address.Movable columns rows ∧
      moved columns rows text = (address.shift columns rows).chars) ∨
        ¬IsToken text ∧ ¬IsToken (moved columns rows text) := by
  by_cases isToken : IsToken text
  · rcases movable.tokens text (Reference.mem_findAll_self isToken) with
      ⟨reference, accepted, spelled, inside⟩
    rcases Reference.eq_chars_of_ofChars? isToken movable.noDollar accepted spelled with
      ⟨whole, onSheet⟩
    refine .inl ⟨reference.address, whole, onSheet, inside, ?_⟩
    rw [moved, Reference.changed_of_isToken isToken, whole, Reference.shiftToken_chars onSheet]
  · exact .inr ⟨isToken, mt (keepsShape_shiftToken columns rows).isToken_changed_iff.mp isToken⟩

theorem lookup_moved (relocated : Relocated columns rows first second)
    (movable : MovableArguments columns rows text) :
    second (String.ofList (moved columns rows text)) = first (String.ofList text) := by
  have strange {text : List Char} (notToken : ¬IsToken text) :
      canonicalId (String.ofList text) ≠ String.ofList text := by
    intro canonical
    have isToken := Reference.isToken_of_canonical canonical
    rw [String.toList_ofList] at isToken
    exact notToken isToken
  rcases movable.cases with ⟨address, whole, onSheet, inside, shifted⟩ | ⟨before, after⟩
  · rw [shifted, whole]
    exact relocated.moved address onSheet inside
  · rw [relocated.strangeFirst _ (strange before), relocated.strangeSecond _ (strange after)]

/-- The address that a moved text names is the moved address. -/
theorem parse?_moved (movable : MovableArguments columns rows text) :
    (∃ address : Address, address.OnSheet ∧ address.Movable columns rows ∧
      Address.parse? (String.ofList text) = some address ∧
        Address.parse? (String.ofList (moved columns rows text)) =
          some (address.shift columns rows)) ∨
      Address.parse? (String.ofList text) = none ∧
        Address.parse? (String.ofList (moved columns rows text)) = none := by
  have unnamed {text : List Char} (noLower : ∀ c ∈ text, c.isLower = false)
      (notToken : ¬IsToken text) : Address.parse? (String.ofList text) = none := by
    cases parsed : Address.parse? (String.ofList text) with
    | none => rfl
    | some address =>
      have isToken := Reference.isToken_of_parse? parsed
      rw [String.toList_ofList] at isToken
      exact absurd (isToken noLower) notToken
  rcases movable.cases with ⟨address, whole, onSheet, inside, shifted⟩ | ⟨before, after⟩
  · left
    refine ⟨address, onSheet, inside, ?_, ?_⟩
    · rw [whole]
      exact Reference.parse?_id onSheet
    · rw [shifted]
      exact Reference.parse?_id (onSheet.shift columns rows)
  · exact .inr ⟨unnamed movable.noLower before, unnamed movable.noLower_moved after⟩

theorem partId_of_noDollar (noDollar : '$' ∉ text) : partId text = String.ofList (trim text) := by
  rw [partId, Range.dropDollars_of_not_mem noDollar]

theorem MovableArguments.partId_moved (movable : MovableArguments columns rows text) :
    partId (moved columns rows text) = String.ofList (moved columns rows (Text.trim text)) := by
  rw [partId_of_noDollar movable.noDollar_moved, moved,
    (keepsShape_shiftToken columns rows).trim_changed]

theorem lookup_partId_moved (relocated : Relocated columns rows first second)
    (movable : MovableArguments columns rows text) :
    second (partId (moved columns rows text)) = first (partId text) := by
  rw [movable.partId_moved, partId_of_noDollar movable.noDollar]
  exact lookup_moved relocated movable.trim

theorem MovableArguments.partId_moved_eq_empty_iff (movable : MovableArguments columns rows text) :
    partId (moved columns rows text) = "" ↔ partId text = "" := by
  rw [movable.partId_moved, partId_of_noDollar movable.noDollar, String.ofList_eq_empty_iff,
    String.ofList_eq_empty_iff, moved, (keepsShape_shiftToken columns rows).changed_eq_nil_iff]

theorem MovableArguments.parse?_partId (movable : MovableArguments columns rows text) :
    (∃ address : Address, address.OnSheet ∧ address.Movable columns rows ∧
      Address.parse? (partId text) = some address ∧
        Address.parse? (partId (moved columns rows text)) = some (address.shift columns rows)) ∨
      Address.parse? (partId text) = none ∧
        Address.parse? (partId (moved columns rows text)) = none := by
  rw [movable.partId_moved, partId_of_noDollar movable.noDollar]
  exact parse?_moved movable.trim

/-! ## Range arguments -/

/-- The values of the cells of a range, in order; a cell without a value counts
as a place. -/
def rangeValues (lookup : Lookup) (range : Range) : Except FormulaError (List (Option String)) :=
  match range.cells with
  | .ok ids => .ok (ids.map lookup)
  | .error _ => .error .fault

theorem rangeValues_rectangle (relocated : Relocated columns rows first second)
    {top bottom : Address} (topOnSheet : top.OnSheet) (bottomOnSheet : bottom.OnSheet)
    (topMovable : top.Movable columns rows) (bottomMovable : bottom.Movable columns rows) :
    rangeValues second (.rectangle (top.shift columns rows) (bottom.shift columns rows)) =
      rangeValues first (.rectangle top bottom) := by
  have topColumn := topMovable.coe_column
  have topRow := topMovable.coe_row
  have bottomColumn := bottomMovable.coe_column
  have bottomRow := bottomMovable.coe_row
  have reversed : ((bottom.shift columns rows).column < (top.shift columns rows).column ∨
      (bottom.shift columns rows).row < (top.shift columns rows).row) ↔
        (bottom.column < top.column ∨ bottom.row < top.row) := by omega
  have sameColumns : (bottom.shift columns rows).column - (top.shift columns rows).column =
      bottom.column - top.column := by omega
  have sameRows : (bottom.shift columns rows).row - (top.shift columns rows).row =
      bottom.row - top.row := by omega
  simp only [rangeValues, Range.cells_rectangle, reversed, sameColumns, sameRows]
  by_cases empty : bottom.column < top.column ∨ bottom.row < top.row
  · rw [if_pos empty, if_pos empty]
    rfl
  rw [if_neg empty, if_neg empty]
  rcases not_or.mp empty with ⟨columnsOrdered, rowsOrdered⟩
  by_cases large : maxRangeCells < (bottom.column - top.column + 1) * (bottom.row - top.row + 1)
  · rw [if_pos large, if_pos large]
  rw [if_neg large, if_neg large, Range.addresses_shift topMovable bottomMovable
    (not_lt.mp columnsOrdered) (not_lt.mp rowsOrdered)]
  simp only [List.map_map]
  refine congrArg Except.ok (List.map_congr_left fun address member => ?_)
  exact relocated.moved address
    (Range.onSheet_of_mem_addresses topOnSheet bottomOnSheet (not_lt.mp columnsOrdered)
      (not_lt.mp rowsOrdered) member)
    (Range.movable_of_mem_addresses topMovable bottomMovable (not_lt.mp columnsOrdered)
      (not_lt.mp rowsOrdered) member)

theorem rangeValues_list_moved (relocated : Relocated columns rows first second)
    {parts : List (List Char)} (movable : ∀ part ∈ parts, MovableArguments columns rows part) :
    rangeValues second (.list ((parts.map (moved columns rows)).map partId)) =
      rangeValues first (.list (parts.map partId)) := by
  simp only [rangeValues, Range.cells, List.map_map]
  exact congrArg Except.ok (List.map_congr_left fun part member =>
    lookup_partId_moved relocated (movable part member))

theorem rangeValues_single_moved (relocated : Relocated columns rows first second)
    (movable : MovableArguments columns rows text) :
    rangeValues second (.single (partId (moved columns rows text))) =
      rangeValues first (.single (partId text)) := by
  simp only [rangeValues, Range.cells, List.map_cons, List.map_nil,
    lookup_partId_moved relocated movable]

/-- Two corners move together, and stay two corners or none. -/
theorem rangeValues_corners_moved (relocated : Relocated columns rows first second)
    {corner rest opposite : List Char} {more : List (List Char)}
    (movable : MovableArguments columns rows (corner ++ ':' :: rest))
    (noComma : ',' ∉ corner ++ ':' :: rest) (noColon : ':' ∉ corner)
    (parts : split ':' rest = opposite :: more) (something : partId opposite ≠ "") :
    rangeValues second (Range.ofText (moved columns rows (corner ++ ':' :: rest))) =
      rangeValues first (Range.ofText (corner ++ ':' :: rest)) := by
  have movableCorner : MovableArguments columns rows corner :=
    movable.of_delimited (.append_cons rfl)
  have movableRest : MovableArguments columns rows rest := movable.of_delimited (.of_cons rfl)
  have movableOpposite : MovableArguments columns rows opposite :=
    movableRest.of_mem_split rfl (by rw [parts]; exact List.mem_cons_self)
  have stillNoComma : ',' ∉ moved columns rows (corner ++ ':' :: rest) :=
    mt (mem_moved_iff rfl rfl).mp noComma
  rw [moved_append_colon] at stillNoComma ⊢
  rw [Range.ofText_of_corners noComma noColon parts something,
    Range.ofText_of_corners stillNoComma (mt (mem_moved_iff rfl rfl).mp noColon)
      (by rw [split_moved rfl, parts, List.map_cons])
      (mt movableOpposite.partId_moved_eq_empty_iff.mp something)]
  rcases movableCorner.parse?_partId with
    ⟨top, topOnSheet, topMovable, named, shiftedTop⟩ | ⟨unnamed, stillUnnamed⟩
  · rcases movableOpposite.parse?_partId with
      ⟨bottom, bottomOnSheet, bottomMovable, other, shiftedBottom⟩ | ⟨missing, stillMissing⟩
    · rw [named, shiftedTop, other, shiftedBottom]
      exact rangeValues_rectangle relocated topOnSheet bottomOnSheet topMovable bottomMovable
    · rw [named, shiftedTop, missing, stillMissing]
      rfl
  · rw [unnamed, stillUnnamed]
    rfl

/-- The moved arguments cover cells of the same values. -/
theorem rangeValues_ofText_moved (relocated : Relocated columns rows first second)
    (movable : MovableArguments columns rows arguments) :
    rangeValues second (Range.ofText (moved columns rows arguments)) =
      rangeValues first (Range.ofText arguments) := by
  by_cases comma : ',' ∈ arguments
  · rw [Range.ofText_of_comma comma, Range.ofText_of_comma ((mem_moved_iff rfl rfl).mpr comma),
      split_moved rfl]
    exact rangeValues_list_moved relocated fun part member => movable.of_mem_split rfl member
  have stillNoComma : ',' ∉ moved columns rows arguments := mt (mem_moved_iff rfl rfl).mp comma
  rcases Text.split_cases ':' arguments with ⟨noColon, _⟩ | ⟨corner, rest, rfl, noColon, _⟩
  · rw [Range.ofText_of_no_colon comma noColon,
      Range.ofText_of_no_colon stillNoComma (mt (mem_moved_iff rfl rfl).mp noColon)]
    exact rangeValues_single_moved relocated movable
  cases parts : split ':' rest with
  | nil => exact absurd parts (Text.split_ne_nil ':' rest)
  | cons opposite more =>
    by_cases nothing : partId opposite = ""
    · have movableCorner : MovableArguments columns rows corner :=
        movable.of_delimited (.append_cons rfl)
      have movableRest : MovableArguments columns rows rest := movable.of_delimited (.of_cons rfl)
      have movableOpposite : MovableArguments columns rows opposite :=
        movableRest.of_mem_split rfl (by rw [parts]; exact List.mem_cons_self)
      rw [moved_append_colon] at stillNoComma ⊢
      rw [Range.ofText_of_blank_corner comma noColon parts nothing,
        Range.ofText_of_blank_corner stillNoComma (mt (mem_moved_iff rfl rfl).mp noColon)
          (by rw [split_moved rfl, parts, List.map_cons])
          (movableOpposite.partId_moved_eq_empty_iff.mpr nothing)]
      exact rangeValues_single_moved relocated movableCorner
    · exact rangeValues_corners_moved relocated movable comma noColon parts nothing

theorem numbers_eq_rangeValues (noLower : ∀ c ∈ arguments, c.isLower = false) (lookup : Lookup) :
    numbers lookup arguments =
      (rangeValues lookup (Range.ofText arguments)).map
        (·.filterMap fun value => value.bind Number.parse?) := by
  rw [numbers, rangeCells, Reference.map_toUpper_eq_self noLower, rangeValues, Range.expand]
  cases (Range.ofText arguments).cells with
  | error error => rfl
  | ok ids =>
    simp only [Except.map, List.filterMap_map]
    rfl

theorem texts_eq_rangeValues (noLower : ∀ c ∈ arguments, c.isLower = false) (lookup : Lookup) :
    texts lookup arguments =
      (rangeValues lookup (Range.ofText arguments)).map (·.filterMap fun value => value) := by
  rw [texts, rangeCells, Reference.map_toUpper_eq_self noLower, rangeValues, Range.expand]
  cases (Range.ofText arguments).cells with
  | error error => rfl
  | ok ids =>
    simp only [Except.map, List.filterMap_map]
    rfl

theorem numbers_moved (relocated : Relocated columns rows first second)
    (movable : MovableArguments columns rows arguments) :
    numbers second (moved columns rows arguments) = numbers first arguments := by
  rw [numbers_eq_rangeValues movable.noLower_moved, numbers_eq_rangeValues movable.noLower,
    rangeValues_ofText_moved relocated movable]

theorem texts_moved (relocated : Relocated columns rows first second)
    (movable : MovableArguments columns rows arguments) :
    texts second (moved columns rows arguments) = texts first arguments := by
  rw [texts_eq_rangeValues movable.noLower_moved, texts_eq_rangeValues movable.noLower,
    rangeValues_ofText_moved relocated movable]

/-! ## Operands -/

theorem operandId_of_noDollar (noDollar : '$' ∉ text) (noLower : ∀ c ∈ text, c.isLower = false) :
    operandId text = partId text := by
  have kept := (Text.delimited_trim text).subset
  rw [operandId, Range.dropDollars_of_not_mem fun member => noDollar (kept member),
    Reference.map_toUpper_eq_self fun c member => noLower c (kept member),
    partId_of_noDollar noDollar]

theorem textOperand_moved (relocated : Relocated columns rows first second)
    (movable : MovableArguments columns rows text) :
    textOperand second (moved columns rows text) = textOperand first text := by
  rw [textOperand, textOperand, operandId_of_noDollar movable.noDollar_moved movable.noLower_moved,
    operandId_of_noDollar movable.noDollar movable.noLower, lookup_partId_moved relocated movable]

theorem numberOperand_moved (relocated : Relocated columns rows first second)
    {operand : Option (List Char)}
    (movable : ∀ text ∈ operand, MovableArguments columns rows text) :
    numberOperand second (operand.map (moved columns rows)) = numberOperand first operand := by
  cases operand with
  | none => rfl
  | some text =>
    have movable := movable text rfl
    simp only [Option.map_some, numberOperand,
      operandId_of_noDollar movable.noDollar_moved movable.noLower_moved,
      operandId_of_noDollar movable.noDollar movable.noLower, lookup_partId_moved relocated movable]
    rcases movable.parse?_partId with ⟨_, _, _, named, shifted⟩ | ⟨unnamed, stillUnnamed⟩
    · rw [named, shifted]
      rfl
    · rw [unnamed, stillUnnamed]

/-! ## Calls -/

/-- A call of the moved arguments has the result of the call. -/
theorem call_moved (relocated : Relocated columns rows first second)
    (movable : MovableArguments columns rows arguments) {function : SheetFunction}
    (noLiterals : function ≠ .findAndReplace) :
    call function second (moved columns rows arguments) = call function first arguments := by
  have operand (place : Nat) :
      numberOperand second (split ',' (moved columns rows arguments))[place]? =
        numberOperand first (split ',' arguments)[place]? := by
    rw [split_moved rfl, List.getElem?_map]
    exact numberOperand_moved relocated fun text found =>
      movable.of_mem_split rfl (List.mem_of_getElem? found)
  cases function with
  | findAndReplace => exact absurd rfl noLiterals
  | power | round => simp only [call, operand]
  | trim | upper | lower => simp only [call, textOperand_moved relocated movable]
  | removeDuplicates | concatenate => simp only [call, texts_moved relocated movable]
  | sum | average | max | min | count | stdev | product =>
    simp only [call, numbers_moved relocated movable]

/-- Tokens that are spelled canonically stay as they are when nothing moves. -/
theorem MovableArguments.moved_zero (movable : MovableArguments columns rows arguments) :
    moved 0 0 arguments = arguments := by
  refine Reference.changed_eq_self fun token found => ?_
  rcases movable.tokens token found with ⟨reference, accepted, spelled, _⟩
  simp only [shiftToken, accepted, Reference.shift_zero, spelled]

/-- A shifted formula calls the same function with the moved arguments. -/
theorem readCall?_shift {formula : String} {function : SheetFunction}
    (starts : isFormula formula = true)
    (call : readCall? (formula.toList.drop 1) = some (function, arguments))
    (movable : MovableArguments columns rows arguments) :
    isFormula (shift formula columns rows) = true ∧
      readCall? ((shift formula columns rows).toList.drop 1) =
        some (function, moved columns rows arguments) := by
  by_cases still : columns = 0 ∧ rows = 0
  · rcases still with ⟨rfl, rfl⟩
    rw [movable.moved_zero]
    exact ⟨starts, call⟩
  · rcases List.head?_eq_some_iff.mp (of_decide_eq_true starts) with ⟨body, whole⟩
    rw [whole, List.drop_one, List.tail_cons] at call
    rcases readCall?_shiftChars call movable.noQuote columns rows with ⟨shifted, shape, shiftedCall⟩
    have spelled : (shift formula columns rows).toList = '=' :: shifted := by
      rw [shift_eq still, String.toList_ofList, whole, shape]
    rw [isFormula, spelled, List.drop_one, List.tail_cons]
    exact ⟨by simp, shiftedCall⟩

/-- A formula whose arguments can be moved keeps its value when it is shifted
together with the cells.  Tokens outside the arguments do not matter. -/
theorem evaluate_shift_of_relocated {formula : String} {function : SheetFunction}
    (starts : isFormula formula = true)
    (call : readCall? (formula.toList.drop 1) = some (function, arguments))
    (noLiterals : function ≠ .findAndReplace) (movable : MovableArguments columns rows arguments)
    {first second : Grid} (firstCanonical : ∀ id, first.Holds id → canonicalId id = id)
    (secondCanonical : ∀ id, second.Holds id → canonicalId id = id)
    (relocated : ∀ address : Address, address.OnSheet → address.Movable columns rows →
      second.value? (address.shift columns rows).id = first.value? address.id) :
    evaluate (shift formula columns rows) second.value? = evaluate formula first.value? := by
  have lookups : Relocated columns rows first.value? second.value? :=
    ⟨fun id strange => Grid.value?_of_not_holds (mt (firstCanonical id) strange),
      fun id strange => Grid.value?_of_not_holds (mt (secondCanonical id) strange), relocated⟩
  rcases readCall?_shift starts call movable with ⟨shiftedStarts, shiftedCall⟩
  have same : evaluate? (shift formula columns rows) second.value? =
      evaluate? formula first.value? := by
    simp only [evaluate?, starts, shiftedStarts, if_true, call, shiftedCall]
    exact call_moved lookups movable noLiterals
  rw [evaluate, evaluate, same]

theorem evaluate_shift_of_relocated_past_last_letter :
    let sheet (id : String) := Grid.ofList [(id, .ofInput "5")]
    shift "=SUM(Y1:Z2)" 1 1 = "=SUM(Z2:AA3)" ∧
      evaluate (shift "=SUM(Y1:Z2)" 1 1) (sheet "AA3").value? =
        evaluate "=SUM(Y1:Z2)" (sheet "Z2").value? := by
  intro sheet
  have movable : MovableArguments 1 1 "Y1:Z2".toList := by
    have found : Text.findAll tokenMeasure "Y1:Z2".toList = ["Y1".toList, "Z2".toList] := by
      decide +kernel
    have plain : ("Y1:Z2".toList.all fun c => !isQuote c && !c.isLower) = true := by decide +kernel
    have kinds (c : Char) (member : c ∈ "Y1:Z2".toList) :
        isQuote c = false ∧ c.isLower = false := by
      simpa using List.all_eq_true.mp plain c member
    refine ⟨fun c member => (kinds c member).1, by decide +kernel,
      fun c member => (kinds c member).2, fun token listed => ?_⟩
    rw [found] at listed
    rcases List.mem_cons.mp listed with rfl | listed
    · exact ⟨⟨⟨25, 1⟩, false, false⟩, by decide +kernel, by decide +kernel,
        by decide +kernel, by decide +kernel⟩
    · rw [List.mem_singleton.mp listed]
      exact ⟨⟨⟨26, 2⟩, false, false⟩, by decide +kernel, by decide +kernel,
        by decide +kernel, by decide +kernel⟩
  have cells (id other : String) : (sheet id).get? other =
      if id = other then some (.ofInput "5") else none := by
    simp [sheet, Grid.ofList, Grid.get?_insert]
  have canonical {id : String} (isCanonical : canonicalId id = id) (other : String)
      (holds : (sheet id).Holds other) : canonicalId other = other := by
    rw [Grid.Holds, cells] at holds
    split at holds
    · next same => rwa [← same]
    · cases holds
  refine ⟨by decide +kernel, evaluate_shift_of_relocated (by decide)
    (by decide +kernel : readCall? ("=SUM(Y1:Z2)".toList.drop 1) = some (.sum, "Y1:Z2".toList))
    (by decide) movable (canonical (by decide +kernel)) (canonical (by decide +kernel)) ?_⟩
  rintro ⟨column, row⟩ _ isMovable
  have movedColumn : (Address.shiftIndex column 1 : Int) = column + 1 :=
    Address.coe_shiftIndex isMovable.column
  have movedRow : (Address.shiftIndex row 1 : Int) = row + 1 :=
    Address.coe_shiftIndex isMovable.row
  have same : "AA3" = ((Address.mk column row).shift 1 1).id ↔
      "Z2" = (Address.mk column row).id := by
    have target : "AA3" = (Address.mk 27 3).id := by decide +kernel
    have source : "Z2" = (Address.mk 26 2).id := by decide +kernel
    rw [target, source, Reference.id_inj, Reference.id_inj, Address.shift, Address.mk.injEq,
      Address.mk.injEq]
    change 27 = Address.shiftIndex column 1 ∧ 3 = Address.shiftIndex row 1 ↔ 26 = column ∧ 2 = row
    omega
  simp only [Grid.value?, cells, same]

end Formula
end Worksheet
