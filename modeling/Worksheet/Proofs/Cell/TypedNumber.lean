import Worksheet.Cell.Display
import Worksheet.Proofs.Number.Writing

namespace Worksheet

/-!
Numbers that are typed.  The form of a number admits the digits of every script,
while the reader takes ASCII digits only.  So a typed number is a number as a
whole exactly if all its digits are ASCII: then it is a decimal literal, which
is read to its end, and otherwise the reader stops before the first digit of
another script, if it does not fail.
-/

open Binary64
open Text (isBlank isDecimalDigit)

variable {raw : String} {text : List Char} {c : Char}

/-- Whether all digits of a text are ASCII. -/
def HasAsciiDigits (text : List Char) : Prop :=
  ∀ c ∈ text, isDecimalDigit c → c.isDigit

instance (text : List Char) : Decidable (HasAsciiDigits text) :=
  List.decidableBAll (fun c => isDecimalDigit c → c.isDigit) text

namespace HasAsciiDigits

theorem of_digits (decimal : ∀ c ∈ text, c.isDigit) : HasAsciiDigits text :=
  fun c member _ => decimal c member

theorem append {other : List Char} (first : HasAsciiDigits text)
    (second : HasAsciiDigits other) : HasAsciiDigits (text ++ other) :=
  fun c member => (List.mem_append.mp member).elim (first c) (second c)

theorem cons (here : isDecimalDigit c = false) (later : HasAsciiDigits text) :
    HasAsciiDigits (c :: text) := by
  intro d member decimal
  rcases List.mem_cons.mp member with rfl | later'
  · cases here.symm.trans decimal
  · exact later d later' decimal

end HasAsciiDigits

/-! ## Blanks -/

/-- No run of digits reaches a run of blanks. -/
theorem isBlank_of_isDecimalDigit (digit : isDecimalDigit c = true) : isBlank c = false := by
  have apart : ∀ run ∈ Text.decimalDigitRanges, 0x20 < run.1 ∧ (run.2 < 0x85 ∨ 0xA0 < run.1) ∧
      (run.2 < 0x1680 ∨ 0x1680 < run.1) ∧ (run.2 < 0x2000 ∨ 0x3000 < run.1) := by
    decide
  rcases List.any_eq_true.mp digit with ⟨run, member, inside⟩
  rw [Bool.and_eq_true, decide_eq_true_iff, decide_eq_true_iff] at inside
  have gaps := apart run member
  rw [← Bool.not_eq_true]
  simp only [isBlank, Bool.or_eq_true, Bool.and_eq_true, decide_eq_true_iff, beq_iff_eq]
  omega

theorem HasAsciiDigits.of_trimStart (trimmed : HasAsciiDigits (Text.trimStart text)) :
    HasAsciiDigits text := by
  intro c member decimal
  rw [← List.takeWhile_append_dropWhile (p := isBlank) (l := text)] at member
  rcases List.mem_append.mp member with blank | later
  · cases (List.mem_takeWhile_imp blank).symm.trans (isBlank_of_isDecimalDigit decimal)
  · exact trimmed c later decimal

/-! ## Digits of literals -/

namespace Decimal

variable {negative : Bool} {number : ℚ} {exponent : Int}

theorem Sign.hasAsciiDigits (isSign : Sign text negative) : HasAsciiDigits text := by
  cases isSign with
  | none => exact fun _ member => nomatch member
  | plus | minus => exact .cons (by decide) fun _ member => nomatch member

theorem Mantissa.hasAsciiDigits (isMantissa : Mantissa text number) : HasAsciiDigits text := by
  cases isMantissa with
  | whole decimal => exact .of_digits decimal
  | pointed decimalWhole decimalFraction =>
    exact .append (.of_digits decimalWhole) (.cons (by decide) (.of_digits decimalFraction))

theorem ExponentPart.hasAsciiDigits (isExponent : ExponentPart text exponent) :
    HasAsciiDigits text := by
  cases isExponent with
  | none => exact fun _ member => nomatch member
  | marked isMarker isSign decimal =>
    have marker := isSign.hasAsciiDigits.append (.of_digits decimal)
    rcases isMarker with rfl | rfl
    · exact .cons (by decide) marker
    · exact .cons (by decide) marker

theorem Literal.hasAsciiDigits (isLiteral : Literal text negative number) :
    HasAsciiDigits text := by
  rcases isLiteral with ⟨isSign, isMantissa, isExponent⟩
  exact isSign.hasAsciiDigits.append (isMantissa.hasAsciiDigits.append isExponent.hasAsciiDigits)

end Decimal

theorem Number.hasAsciiDigits_of_isLiteral (isLiteral : Number.IsLiteral text) :
    HasAsciiDigits text := by
  rcases isLiteral with ⟨negative, real, isLiteral⟩
  cases isLiteral with
  | infinity isSign =>
    have noDigits : HasAsciiDigits infinityText := by decide
    exact isSign.hasAsciiDigits.append noDigits
  | decimal literal => exact literal.hasAsciiDigits

/-! ## The form of a number -/

namespace ContentType

/-- The form of a number is maybe a minus, digits, and maybe a point with digits. -/
theorem isNumberForm_parts (form : isNumberForm text = true) :
    ∃ sign whole pointed, text = sign ++ (whole ++ pointed) ∧ (sign = [] ∨ sign = ['-']) ∧
      (∀ c ∈ whole, isDecimalDigit c) ∧ (pointed = [] ∨
        ∃ fraction, pointed = '.' :: fraction ∧ ∀ c ∈ fraction, isDecimalDigit c) := by
  have signed : ∃ sign, (sign = [] ∨ sign = ['-']) ∧
      text = sign ++ if text.head? = some '-' then text.drop 1 else text := by
    split
    next minus =>
      rcases List.head?_eq_some_iff.mp minus with ⟨rest, rfl⟩
      exact ⟨['-'], .inr rfl, rfl⟩
    next => exact ⟨[], .inl rfl, rfl⟩
  rcases signed with ⟨sign, isSign, parts⟩
  dsimp only [isNumberForm] at form
  generalize (if text.head? = some '-' then text.drop 1 else text) = unsigned at form parts
  have split := List.takeWhile_append_dropWhile (p := isDecimalDigit) (l := unsigned)
  refine ⟨sign, unsigned.takeWhile isDecimalDigit, unsigned.dropWhile isDecimalDigit,
    by rw [split, parts], isSign, fun c => List.mem_takeWhile_imp, ?_⟩
  have stops := List.head?_dropWhile_not isDecimalDigit unsigned
  generalize unsigned.dropWhile isDecimalDigit = pointed at form stops
  cases pointed with
  | nil => exact .inl rfl
  | cons c fraction =>
    by_cases point : c = '.'
    · rw [List.head?_cons, if_pos (congrArg some point)] at form
      exact .inr ⟨fraction, by rw [point], List.all_eq_true.mp form⟩
    · rw [List.head?_cons, if_neg (fun same => point (Option.some.inj same))] at form
      cases stops.symm.trans (List.all_eq_true.mp form c List.mem_cons_self)

theorem exists_literal (form : isNumberForm text = true) (digit : text.any Char.isDigit = true)
    (ascii : HasAsciiDigits text) : ∃ negative number, Decimal.Literal text negative number := by
  rcases isNumberForm_parts form with ⟨sign, whole, pointed, rfl, isSign, digits, places⟩
  have signed : ∃ negative, Decimal.Sign sign negative := by
    rcases isSign with rfl | rfl
    · exact ⟨false, .none⟩
    · exact ⟨true, .minus⟩
  have decimalWhole : ∀ c ∈ whole, c.isDigit := fun c member =>
    ascii c (by simp [member]) (digits c member)
  have mantissa : ∃ number, Decimal.Mantissa (whole ++ pointed) number := by
    rcases places with rfl | ⟨fraction, rfl, more⟩
    · refine ⟨Numeral.value whole, ?_⟩
      rw [List.append_nil]
      refine .whole decimalWhole ?_
      rintro rfl
      rcases isSign with rfl | rfl <;> cases digit
    · have decimal : ∀ c ∈ fraction, c.isDigit := fun c member =>
        ascii c (by simp [member]) (more c member)
      refine ⟨_, .pointed decimalWhole decimal fun empty => ?_⟩
      rcases List.append_eq_nil_iff.mp empty with ⟨rfl, rfl⟩
      rcases isSign with rfl | rfl <;> cases digit
  rcases signed with ⟨negative, isSign⟩
  rcases mantissa with ⟨number, isMantissa⟩
  have isLiteral := Decimal.Literal.parts isSign isMantissa .none
  rw [List.append_nil] at isLiteral
  exact ⟨negative, _, isLiteral⟩

/-- What is classified as a number has the form of one and an ASCII digit. -/
theorem isNumberForm_of_classify (isNumber : classify raw = .ok .number) :
    isNumberForm raw.toList = true ∧ raw.toList.any Char.isDigit = true := by
  rw [← Bool.and_eq_true]
  by_contra other
  dsimp only [classify] at isNumber
  rw [if_neg other] at isNumber
  split at isNumber
  · split at isNumber <;> cases isNumber
  · split at isNumber <;> cases isNumber

theorem isFormula_of_isNumberForm (form : isNumberForm raw.toList = true) :
    isFormula raw = false := by
  rw [isFormula, decide_eq_false_iff_not]
  intro starts
  rcases List.head?_eq_some_iff.mp starts with ⟨rest, parts⟩
  rw [parts] at form
  have first : isDecimalDigit '=' = false := by decide
  simp [isNumberForm, first] at form

end ContentType

/-! ## Typing a number -/

namespace Cell

open ContentType (classify)

theorem nonempty_of_number (isNumber : classify raw = .ok .number) : raw.isEmpty = false := by
  rcases ContentType.isNumberForm_of_classify isNumber with ⟨_, digit⟩
  by_contra empty
  rw [Bool.not_eq_false, String.isEmpty_iff] at empty
  rw [empty] at digit
  cases digit

/-- Typing a number replaces the value, the formula and the type of a cell. -/
theorem apply_input_number (isNumber : classify raw = .ok .number) (cell : Cell) :
    (cell.apply (.input raw)).value = some raw ∧ (cell.apply (.input raw)).formula = none ∧
      (cell.apply (.input raw)).type = some .number := by
  rcases ContentType.isNumberForm_of_classify isNumber with ⟨form, _⟩
  have plain := ContentType.isFormula_of_isNumberForm form
  have nonempty := nonempty_of_number isNumber
  have typed : ContentType.infer raw = .number := by
    rw [ContentType.infer, isNumber]
  simp [apply, CellUpdate.input, plain, present, nonempty, typed]

theorem display_apply_input (isNumber : classify raw = .ok .number) (cell : Cell) :
    (cell.apply (.input raw)).display = displayAs .number raw := by
  rcases apply_input_number isNumber cell with ⟨value, formula, type⟩
  have plain : (cell.apply (.input raw)).hasFormula = false := by
    rw [hasFormula, activeFormula?, formula]
    rfl
  rw [display, value, plain, type, Option.getD_some, nonempty_of_number isNumber,
    Option.getD_some]
  exact if_neg Bool.false_ne_true

/-- What is true of a text that is a number as a whole: it is a decimal literal, it
is read as the double nearest to this, and a cell into which it is typed shows this
double, or the text as it is if the number is beyond all doubles. -/
structure IsNumberAsWhole (raw : String) (number : Float) : Prop where
  nearest : ∃ negative real magnitude, Decimal.Literal raw.toList negative real ∧
    IsNearest real magnitude ∧ number = ofMagnitude negative magnitude
  computed : Number.parse? raw = some number
  shown : ∀ cell : Cell, (cell.apply (.input raw)).display =
    if number.isFinite then Number.grouped number else raw

/-- A typed number is read to its end exactly if its digits are ASCII, and then it is
a number as a whole. -/
theorem typed_number_whole_iff_ascii (isNumber : classify raw = .ok .number) :
    ((∃ number, Number.read? raw.toList = some (number, [])) ↔ HasAsciiDigits raw.toList) ∧
    ∀ number, Number.read? raw.toList = some (number, []) → IsNumberAsWhole raw number := by
  rcases ContentType.isNumberForm_of_classify isNumber with ⟨form, digit⟩
  have reads (ascii : HasAsciiDigits raw.toList) : ∃ negative real magnitude,
      Decimal.Literal raw.toList negative real ∧ IsNearest real magnitude ∧
      Number.read? raw.toList = some (ofMagnitude negative magnitude, []) := by
    rcases ContentType.exists_literal form digit ascii with ⟨negative, real, isLiteral⟩
    rcases Number.read?_of_literal (.decimal isLiteral) with ⟨magnitude, rounds, read⟩
    cases rounds with
    | nearest isNearest => exact ⟨negative, real, magnitude, isLiteral, isNearest, read⟩
  -- What is read to the end is a literal behind blanks, and blanks are no digits.
  have ascii {number : Float} (read : Number.read? raw.toList = some (number, [])) :
      HasAsciiDigits raw.toList := by
    rcases Number.read?_parts read with ⟨literal, parts, isLiteral⟩
    rw [List.append_nil] at parts
    exact .of_trimStart (parts ▸ Number.hasAsciiDigits_of_isLiteral isLiteral)
  refine ⟨⟨fun ⟨_, read⟩ => ascii read, fun isAscii => ?_⟩, fun number read => ?_⟩
  · rcases reads isAscii with ⟨negative, _, magnitude, _, _, read⟩
    exact ⟨_, read⟩
  · rcases reads (ascii read) with ⟨negative, real, magnitude, isLiteral, isNearest, same⟩
    cases read.symm.trans same
    have computed : Number.parse? raw = some (ofMagnitude negative magnitude) := by
      rw [Number.parse?, read, Option.map_some]
    refine ⟨⟨negative, real, magnitude, isLiteral, isNearest, rfl⟩, computed, fun cell => ?_⟩
    rw [display_apply_input isNumber, displayAs]
    simp only [computed]

theorem typed_number_whole_of_ascii : classify "-.50" = .ok .number ∧
    (∃ number, Number.read? "-.50".toList = some (number, [])) ∧
    IsNumberAsWhole "-.50" (-0.5) := by
  have isNumber : classify "-.50" = .ok .number := by decide
  have read : Number.read? "-.50".toList = some (-0.5, []) := by decide +kernel
  have whole := typed_number_whole_iff_ascii isNumber
  exact ⟨isNumber, whole.1.mpr (by decide), whole.2 _ read⟩

/-- A digit of another script makes a typed number that is read as its beginning, or
as none. -/
theorem typed_number_cut_at_other_digit :
    (classify "1٣" = .ok .number ∧ Number.read? "1٣".toList = some (1, ['٣']) ∧
      (({} : Cell).apply (.input "1٣")).display = "1") ∧
    (classify "٣1" = .ok .number ∧ Number.parse? "٣1" = none ∧
      (({} : Cell).apply (.input "٣1")).display = "٣1") := by
  decide +kernel

end Cell
end Worksheet
