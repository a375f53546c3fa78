import Worksheet.Proofs.Reference.Token

namespace Worksheet
namespace Reference

/-!
Identifiers as tokens.  A canonical identifier, an identifier that the strict
reader accepts and the spelling of a reference are tokens, as long as they are
in upper case.
-/

variable {id : String} {text : List Char} {c : Char}

/-! ## Letters and digits -/

theorem isUpper_letter {rank : Nat} (small : rank < 26) : (Column.letter rank).isUpper = true := by
  have cases : ∀ n : Fin 26, (Column.letter n).isUpper = true := by decide
  exact cases ⟨rank, small⟩

theorem isDigit_digit {number : Nat} (small : number < 10) :
    (Numeral.digit number).isDigit = true := by
  have cases : ∀ n : Fin 10, (Numeral.digit n).isDigit = true := by decide
  exact cases ⟨number, small⟩

theorem isUpper_of_mem_letters {column : Nat} (member : c ∈ Column.letters column) :
    c.isUpper = true := by
  fun_induction Column.letters column with
  | case1 => cases member
  | case2 column positive ih =>
    rcases List.mem_append.mp member with earlier | last
    · exact ih earlier
    · rw [List.mem_singleton.mp last]
      exact isUpper_letter (Nat.mod_lt _ (by decide))

theorem letters_ne_nil {column : Nat} (positive : 0 < column) : Column.letters column ≠ [] := by
  rw [Column.letters, if_neg positive.ne']
  exact List.append_ne_nil_of_right_ne_nil _ (List.cons_ne_nil _ _)

theorem isDigit_of_mem_ofNat {number : Nat} (member : c ∈ Numeral.ofNat number) :
    c.isDigit = true := by
  fun_induction Numeral.ofNat number with
  | case1 number small =>
    rw [List.mem_singleton.mp member]
    exact isDigit_digit small
  | case2 number large ih =>
    rcases List.mem_append.mp member with earlier | last
    · exact ih earlier
    · rw [List.mem_singleton.mp last]
      exact isDigit_digit (Nat.mod_lt _ (by decide))

theorem ofNat_ne_nil (number : Nat) : Numeral.ofNat number ≠ [] := by
  rw [Numeral.ofNat]
  split
  · exact List.cons_ne_nil _ _
  · exact List.append_ne_nil_of_right_ne_nil _ (List.cons_ne_nil _ _)

/-! ## Canonical identifiers -/

theorem isToken_chars {address : Address} (positive : 0 < address.column) :
    IsToken address.chars :=
  ⟨false, Column.letters address.column, false, Numeral.ofNat address.row, rfl,
    ⟨letters_ne_nil positive, fun _ member => isUpper_of_mem_letters member⟩,
    ofNat_ne_nil _, fun _ member => isDigit_of_mem_ofNat member⟩

/-- A letter of either case counts one to twenty-six. -/
theorem weight_bounds (alpha : c.isAlpha = true) : 1 ≤ Column.weight c ∧ Column.weight c ≤ 26 := by
  have bounds := isUpper_iff.mp (isUpper_toUpper alpha)
  rw [Column.weight]
  omega

theorem value_pos {letters : List Char} (nonempty : letters ≠ [])
    (alpha : ∀ c ∈ letters, c.isAlpha) : 0 < Column.value letters := by
  rcases List.eq_nil_or_concat letters with rfl | ⟨earlier, last, rfl⟩
  · exact absurd rfl nonempty
  · rw [List.concat_eq_append] at alpha ⊢
    have weighs := weight_bounds (alpha last (by simp))
    rw [Column.value_append_singleton]
    omega

theorem decode_column_pos (text : List Char) : 0 < (Address.decode text).column := by
  unfold Address.decode
  by_cases none : (text.dropWhile (!·.isUpper)).takeWhile Char.isUpper = []
  · simp only [none, if_true]
    exact Nat.one_pos
  · simp only [none, if_false, Column.clampedValue_eq_min]
    exact Nat.lt_min.mpr
      ⟨value_pos none fun _ member => isAlpha_of_isUpper (List.mem_takeWhile_imp member),
        by decide⟩

theorem decode_column_le (text : List Char) : (Address.decode text).column ≤ lastIndex := by
  unfold Address.decode
  by_cases none : (text.dropWhile (!·.isUpper)).takeWhile Char.isUpper = []
  · simp only [none, if_true]
    decide
  · simp only [none, if_false, Column.clampedValue_eq_min]
    exact Nat.min_le_right _ _

theorem bounds_of_ofDigits? {digits : List Char} {row : Nat}
    (named : Row.ofDigits? digits = some row) : 0 < row ∧ row ≤ lastIndex := by
  unfold Row.ofDigits? at named
  simp only at named
  split at named
  · next bounds =>
    rw [← Option.some.inj named]
    exact bounds
  · cases named

theorem decode_row_bounds (text : List Char) :
    0 < (Address.decode text).row ∧ (Address.decode text).row ≤ lastIndex := by
  unfold Address.decode
  cases named : Row.ofDigits? ((text.dropWhile (!·.isDigit)).takeWhile Char.isDigit) with
  | none => simp only [named, Option.getD_none]; decide
  | some row => simpa only [named, Option.getD_some] using bounds_of_ofDigits? named

theorem letters_chars {address : Address} (positive : 0 < address.column) :
    (address.chars.dropWhile (!·.isUpper)).takeWhile Char.isUpper =
      Column.letters address.column :=
  Text.takeWhile_dropWhile_run [] (Numeral.ofNat address.row) (fun _ member => nomatch member)
    (fun _ member => isUpper_of_mem_letters member) (letters_ne_nil positive) fun _ first =>
      not_isUpper_of_isDigit (isDigit_of_mem_ofNat (List.mem_of_mem_head? first))

theorem digits_chars (address : Address) :
    (address.chars.dropWhile (!·.isDigit)).takeWhile Char.isDigit = Numeral.ofNat address.row := by
  have found := Text.takeWhile_dropWhile_run (Column.letters address.column) []
    (fun _ member => not_isDigit_of_isUpper (isUpper_of_mem_letters member))
    (fun _ member => isDigit_of_mem_ofNat member) (ofNat_ne_nil address.row)
    fun _ first => nomatch first
  rwa [List.append_nil] at found

/-- The permissive reader gives back an address on the sheet. -/
theorem decode_chars {address : Address} (columnPos : 0 < address.column)
    (columnLe : address.column ≤ lastIndex)
    (row : 0 < address.row ∧ address.row ≤ lastIndex) :
    Address.decode address.chars = address := by
  have named : Row.ofDigits? (Numeral.ofNat address.row) = some address.row := by
    rw [Row.ofDigits?, Numeral.value_ofNat]
    exact if_pos row
  unfold Address.decode
  simp only [letters_chars columnPos, digits_chars, named, Column.clampedValue_eq_min,
    Column.value_letters, letters_ne_nil columnPos, if_false, Nat.min_eq_left columnLe,
    Option.getD_some]

/-- The identifier of an address on the sheet is canonical. -/
theorem canonicalId_id {address : Address} (columnPos : 0 < address.column)
    (columnLe : address.column ≤ lastIndex)
    (row : 0 < address.row ∧ address.row ≤ lastIndex) : canonicalId address.id = address.id := by
  have isToken := isToken_chars columnPos
  have trimmed : Text.trim address.chars = address.chars :=
    trim_eq_self fun _ member => isReferenceChar_of_isTokenChar (isToken.isTokenChar member)
  have raised : address.chars.map Char.toUpper = address.chars :=
    map_toUpper_eq_self fun _ member => notLower_of_isTokenChar (isToken.isTokenChar member)
  have spelled : address.id.toList = address.chars := String.toList_ofList
  rw [canonicalId, Address.ofInput, spelled, trimmed, raised,
    decode_chars columnPos columnLe row]

theorem canonicalId_canonicalId (id : String) : canonicalId (canonicalId id) = canonicalId id :=
  canonicalId_id (decode_column_pos _) (decode_column_le _) (decode_row_bounds _)

theorem isToken_of_canonical (canonical : canonicalId id = id) : IsToken id.toList := by
  rw [← canonical, canonicalId, Address.id, String.toList_ofList]
  exact isToken_chars (decode_column_pos _)

/-! ## Accepted spellings -/

theorem ne_nil_of_ofDigits? {digits : List Char} {row : Nat}
    (named : Row.ofDigits? digits = some row) : digits ≠ [] := by
  rintro rfl
  cases named

theorem letters_of_ofLetters? {letters : List Char} {column : Nat}
    (named : Column.ofLetters? letters = some column) :
    letters ≠ [] ∧ ∀ c ∈ letters, c.isAlpha := by
  rw [Column.ofLetters?_eq_ite] at named
  split at named
  · next parts => exact ⟨parts.1, List.all_eq_true.mp parts.2.1⟩
  · cases named

theorem isToken_of_parse? {address : Address} (parsed : Address.parse? id = some address)
    (upper : ∀ c ∈ id.toList, c.isLower = false) : IsToken id.toList := by
  unfold Address.parse? at parsed
  simp only at parsed
  split at parsed
  · next decimal =>
    rcases Option.bind_eq_some_iff.mp parsed with ⟨column, letters, parsed⟩
    rcases Option.bind_eq_some_iff.mp parsed with ⟨row, digits, _⟩
    rcases letters_of_ofLetters? letters with ⟨nonempty, alpha⟩
    refine ⟨false, id.toList.takeWhile Char.isAlpha, false, id.toList.dropWhile Char.isAlpha,
      List.takeWhile_append_dropWhile.symm, ⟨nonempty, fun c member => ?_⟩,
      ne_nil_of_ofDigits? digits, List.all_eq_true.mp decimal⟩
    exact isUpper_of_isAlpha (alpha c member) (upper c (List.takeWhile_subset _ member))
  · cases parsed

theorem isToken_of_ofChars? {reference : Reference} (accepted : ofChars? text = some reference)
    (upper : ∀ c ∈ Text.trim text, c.isLower = false) : IsToken (Text.trim text) := by
  unfold ofChars? at accepted
  have whole := dollar_append_takeDollar (Text.trim text)
  rcases first : takeDollar (Text.trim text) with ⟨columnFixed, afterMark⟩
  have rest := dollar_append_takeDollar (afterMark.dropWhile Char.isAlpha)
  rcases second : takeDollar (afterMark.dropWhile Char.isAlpha) with ⟨rowFixed, digits⟩
  rw [first] at whole accepted
  rw [second] at rest
  simp only at whole rest accepted
  rw [second] at accepted
  simp only at accepted
  split at accepted
  · next decimal =>
    rcases Option.bind_eq_some_iff.mp accepted with ⟨column, letters, accepted⟩
    rcases Option.bind_eq_some_iff.mp accepted with ⟨row, named, _⟩
    rcases letters_of_ofLetters? letters with ⟨nonempty, alpha⟩
    refine ⟨columnFixed, afterMark.takeWhile Char.isAlpha, rowFixed, digits, ?_,
      ⟨nonempty, fun c member => ?_⟩, ne_nil_of_ofDigits? named, List.all_eq_true.mp decimal⟩
    · rw [rest, List.takeWhile_append_dropWhile, whole]
    · refine isUpper_of_isAlpha (alpha c member) (upper c ?_)
      rw [← whole]
      exact List.mem_append_right _ (List.takeWhile_subset _ member)
  · cases accepted

end Reference
end Worksheet
