import Mathlib.Data.List.Induction
import Worksheet.Proofs.Reference.Shift

namespace Worksheet

/-!
The spelling of addresses and references.  Column letters are a numeral without
a zero, so every sequence of letters is the only one for its number; digits are
the only ones for theirs as soon as they do not begin with a zero.  An address
on the sheet therefore has one spelling in upper case and without leading zeros,
and so has a reference once its dollar signs are given.  Reading a spelling
never reaches the bounds of the sheet before the number itself does.
-/

/-! ## Column letters -/

namespace Column

variable {text part : List Char} {c : Char}

theorem letter_weight (upper : c.isUpper) : letter (weight c - 1) = c := by
  have bounds := Reference.isUpper_iff.mp upper
  have rank : 65 + (weight c - 1) = c.toNat := by
    rw [weight, Reference.toUpper_eq_self (Reference.not_isLower_of_isUpper upper)]
    omega
  rw [letter, rank, Char.ofNat_toNat]

/-- Upper-case letters are the letters of the number they stand for. -/
theorem letters_value (upper : ∀ c ∈ text, c.isUpper) : letters (value text) = text := by
  induction text using List.reverseRecOn with
  | nil =>
    rw [letters]
    rfl
  | append_singleton text c ih =>
    have last : c.isUpper := upper c (by simp)
    have weighs := Reference.weight_bounds (Reference.isAlpha_of_isUpper last)
    have quotient : (value text * 26 + weight c - 1) / 26 = value text := by omega
    have remainder : (value text * 26 + weight c - 1) % 26 = weight c - 1 := by omega
    rw [value_append_singleton, letters, if_neg (by omega), quotient, remainder,
      letter_weight last, ih fun d member => upper d (List.mem_append_left _ member)]

theorem value_le_of_prefix (starts : part <+: text) : value part ≤ value text := by
  rcases starts with ⟨rest, rfl⟩
  rw [value, value, List.foldl_append]
  exact le_foldl_weight rest _

/-- No step of the reading of a column on the sheet is held back. -/
theorem step_le_lastIndex {column : Nat} (onSheet : column ≤ lastIndex)
    (starts : part ++ [c] <+: letters column) :
    clampedValue part * 26 + weight c ≤ lastIndex := by
  have whole := value_le_of_prefix starts
  rw [value_letters, value_append_singleton] at whole
  rw [clampedValue_eq_min]
  omega

end Column

/-! ## Row digits -/

namespace Numeral

variable {digits : List Char} {c : Char}

theorem digit_digitValue (decimal : c.isDigit) : digit (digitValue c) = c := by
  have bounds := Reference.isDigit_iff.mp decimal
  have code : 48 + digitValue c = c.toNat := by
    rw [digitValue]
    omega
  rw [digit, code, Char.ofNat_toNat]

theorem digitValue_lt (decimal : c.isDigit) : digitValue c < 10 := by
  have bounds := Reference.isDigit_iff.mp decimal
  rw [digitValue]
  omega

theorem digitValue_pos (decimal : c.isDigit) (notZero : c ≠ '0') : 0 < digitValue c := by
  have bounds := Reference.isDigit_iff.mp decimal
  have different : c.toNat ≠ 48 := fun same => notZero (Char.toNat_inj.mp same)
  rw [digitValue]
  omega

theorem value_pos_of_head? (nonempty : digits ≠ []) (decimal : ∀ c ∈ digits, c.isDigit)
    (first : digits.head? ≠ some '0') : 0 < value digits := by
  induction digits using List.reverseRecOn with
  | nil => exact absurd rfl nonempty
  | append_singleton digits c ih =>
    rw [value_append_singleton]
    by_cases single : digits = []
    · rw [single] at first
      have notZero : c ≠ '0' := fun same => first (congrArg some same)
      have positive := digitValue_pos (decimal c (by simp)) notZero
      omega
    · rw [List.head?_append_of_ne_nil _ single] at first
      have positive := ih single (fun d member => decimal d (List.mem_append_left _ member)) first
      omega

/-- Digits that do not begin with a zero are the numeral of their number. -/
theorem ofNat_value (nonempty : digits ≠ []) (decimal : ∀ c ∈ digits, c.isDigit)
    (first : digits.head? ≠ some '0') : ofNat (value digits) = digits := by
  induction digits using List.reverseRecOn with
  | nil => exact absurd rfl nonempty
  | append_singleton digits c ih =>
    have isLast : c.isDigit := decimal c (by simp)
    have small := digitValue_lt isLast
    have earlier : ∀ d ∈ digits, d.isDigit :=
      fun d member => decimal d (List.mem_append_left _ member)
    rw [value_append_singleton, ofNat]
    by_cases single : digits = []
    · have none : value digits = 0 := by
        rw [single]
        rfl
      rw [none, Nat.zero_mul, Nat.zero_add, if_pos small, digit_digitValue isLast, single,
        List.nil_append]
    · rw [List.head?_append_of_ne_nil _ single] at first
      have positive := value_pos_of_head? single earlier first
      have quotient : (value digits * 10 + digitValue c) / 10 = value digits := by omega
      have remainder : (value digits * 10 + digitValue c) % 10 = digitValue c := by omega
      rw [if_neg (by omega), quotient, remainder, digit_digitValue isLast, ih single earlier first]

end Numeral

/-! ## Addresses and references -/

namespace Reference

variable {letters digits token : List Char} {reference : Reference}

/-- Letters and digits that name a column and a row are the spelling of the
two. -/
theorem letters_of_named (isLetters : IsLetters letters) {column : Nat}
    (named : Column.ofLetters? letters = some column) : Column.letters column = letters := by
  rw [Column.ofLetters?_eq_ite] at named
  split at named
  · rw [← Option.some.inj named]
    exact Column.letters_value isLetters.2
  · cases named

theorem digits_of_counted (isDigits : IsDigits digits) (first : digits.head? ≠ some '0')
    {row : Nat} (counted : Row.ofDigits? digits = some row) : Numeral.ofNat row = digits := by
  unfold Row.ofDigits? at counted
  simp only at counted
  split at counted
  · rw [← Option.some.inj counted]
    exact Numeral.ofNat_value isDigits.1 isDigits.2 first
  · cases counted

/-- The first digit of a token is the first of its row. -/
theorem find?_isDigit_token {columnFixed rowFixed : Bool} (isLetters : IsLetters letters) :
    (dollar columnFixed ++ (letters ++ (dollar rowFixed ++ digits))).find? Char.isDigit =
      digits.find? Char.isDigit := by
  have sign (isFixed : Bool) : (dollar isFixed).find? Char.isDigit = none := by
    cases isFixed <;> rfl
  have noDigit : letters.find? Char.isDigit = none := by
    refine List.find?_eq_none.mpr fun c member digit => ?_
    have upper := isLetters.2 c member
    rw [not_isUpper_of_isDigit digit] at upper
    cases upper
  simp only [List.find?_append, sign, noDigit, Option.none_or]

/-- A token without leading zeros in its row is the spelling of the reference
that is read from it. -/
theorem chars_of_ofChars? (isToken : IsToken token) (noZero : token.find? Char.isDigit ≠ some '0')
    (accepted : ofChars? token = some reference) :
    reference.chars = token ∧ reference.address.OnSheet := by
  rcases isToken with ⟨columnFixed, letters, rowFixed, digits, rfl, isLetters, isDigits⟩
  rw [ofChars?_token isLetters isDigits] at accepted
  rcases Option.bind_eq_some_iff.mp accepted with ⟨column, named, accepted⟩
  rcases Option.bind_eq_some_iff.mp accepted with ⟨row, counted, accepted⟩
  have first : digits.head? ≠ some '0' := by
    rcases List.exists_cons_of_ne_nil isDigits.1 with ⟨digit, later, rfl⟩
    rwa [find?_isDigit_token isLetters,
      List.find?_cons_of_pos (isDigits.2 digit List.mem_cons_self)] at noZero
  rw [← Option.some.inj accepted]
  refine ⟨?_, isIndex_of_ofLetters? named, bounds_of_ofDigits? counted⟩
  rw [chars, letters_of_named isLetters named, digits_of_counted isDigits first counted,
    List.append_assoc, List.append_assoc]

end Reference

namespace Address

open Reference (IsLetters IsDigits)

/-- Addresses on the sheet and their spellings belong to each other one by one,
whichever reader is used.  The permissive one clamps nothing on the way, the
strict one refuses letters only for one of three reasons, and with every choice
of dollar signs a reference comes back as it was. -/
theorem spellings_read_back :
    (∀ address : Address, address.OnSheet →
      parse? address.id = some address ∧ decode address.id.toList = address ∧
        ∀ part c, part ++ [c] <+: Column.letters address.column →
          Column.clampedValue part * 26 + Column.weight c ≤ lastIndex) ∧
    (∀ letters digits, IsLetters letters → IsDigits digits → digits.head? ≠ some '0' →
      ∀ address, parse? (String.ofList (letters ++ digits)) = some address →
        address.id = String.ofList (letters ++ digits)) ∧
    (∀ letters, Column.ofLetters? letters = none ↔
      letters = [] ∨ (∃ c ∈ letters, c.isAlpha = false) ∨ lastIndex < Column.value letters) ∧
    ∀ reference : Reference, reference.address.OnSheet →
      Reference.ofChars? reference.chars = some reference := by
  refine ⟨fun address onSheet => ⟨Reference.parse?_id onSheet, ?_, ?_⟩, ?_, ?_,
    fun reference => Reference.ofChars?_spelled⟩
  · rw [id, String.toList_ofList]
    exact Reference.decode_chars onSheet.column.1 onSheet.column.2 onSheet.row
  · exact fun part c => Column.step_le_lastIndex onSheet.column.2
  · intro letters digits isLetters isDigits first address parsed
    rw [Reference.parse?_append isLetters isDigits] at parsed
    rcases Option.bind_eq_some_iff.mp parsed with ⟨column, named, parsed⟩
    rcases Option.bind_eq_some_iff.mp parsed with ⟨row, counted, parsed⟩
    rw [← Option.some.inj parsed, id, chars, Reference.letters_of_named isLetters named,
      Reference.digits_of_counted isDigits first counted]
  · intro letters
    rw [Column.ofLetters?_eq_ite]
    split
    · next accepted =>
      rcases accepted with ⟨nonempty, alpha, within⟩
      refine iff_of_false (Option.some_ne_none _) ?_
      rintro (empty | ⟨c, member, other⟩ | beyond)
      · exact nonempty empty
      · rw [List.all_eq_true.mp alpha c member] at other
        cases other
      · omega
    · next refused =>
      refine iff_of_true rfl ?_
      by_contra none
      simp only [not_or, not_exists, not_and, Bool.not_eq_false, Nat.not_lt] at none
      exact refused ⟨none.1, List.all_eq_true.mpr none.2.1, none.2.2⟩

/-- The last cell of the sheet, written and read. -/
theorem spellings_read_back_of_last_cell :
    (Address.mk lastIndex lastIndex).id = "MWLQKWU4294967295" ∧
      parse? "MWLQKWU4294967295" = some ⟨lastIndex, lastIndex⟩ ∧
      decode "MWLQKWU4294967295".toList = ⟨lastIndex, lastIndex⟩ ∧
      Column.clampedValue "MWLQKW".toList * 26 + Column.weight 'U' ≤ lastIndex ∧
      Column.ofLetters? "MWLQKWV".toList = none ∧
      (∀ address, parse? "MWLQKWU7" = some address → address.id = "MWLQKWU7") ∧
      Reference.ofChars? "$MWLQKWU4294967295".toList =
        some ⟨⟨lastIndex, lastIndex⟩, true, false⟩ := by
  have onSheet : (Address.mk lastIndex lastIndex).OnSheet := ⟨by decide, by decide⟩
  have spelled : (Address.mk lastIndex lastIndex).id = "MWLQKWU4294967295" := by decide +kernel
  have signed : (Reference.mk ⟨lastIndex, lastIndex⟩ true false).chars =
      "$MWLQKWU4294967295".toList := by decide +kernel
  rcases spellings_read_back with ⟨written, unique, refused, signs⟩
  rcases written _ onSheet with ⟨parsed, decoded, exact⟩
  have seventh : String.ofList (Column.letters lastIndex ++ Numeral.ofNat 7) = "MWLQKWU7" := by
    decide +kernel
  have starts : "MWLQKW".toList ++ ['U'] <+: Column.letters lastIndex := by decide +kernel
  rw [spelled] at parsed decoded
  refine ⟨spelled, parsed, decoded, exact _ _ starts,
    (refused _).mpr (.inr (.inr (by decide +kernel))), ?_, ?_⟩
  · rw [← seventh]
    exact unique _ _ (Reference.isLetters_letters onSheet.column.1) (Reference.isDigits_ofNat 7)
      (by decide +kernel)
  · rw [← signed]
    exact signs _ onSheet

end Address
end Worksheet
