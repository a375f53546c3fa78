import Worksheet.CommandLine.Run
import Worksheet.Proofs.Reference.Shift

namespace Worksheet
namespace Address

/-!
The two readers of addresses beside each other.  The permissive one makes an
address on the sheet of every text, so every text has a canonical identifier,
and that identifier is a fixed point.  Where the strict one accepts a text, the
permissive one finds the same letters and the same digits in it and reaches none
of its fallbacks; both readers name the same cell.
-/

open Reference (IsLetters IsDigits)

variable {address : Address} {letters digits : List Char}

/-! ## Runs -/

/-- The column is that of the first run of upper-case letters, held at the last
column. -/
theorem decode_column_of_run (before after : List Char)
    (left : ∀ c ∈ before, c.isUpper = false) (isLetters : IsLetters letters)
    (right : ∀ c ∈ after.head?, c.isUpper = false) :
    (decode (before ++ (letters ++ after))).column = min (Column.value letters) lastIndex := by
  have found := Text.takeWhile_dropWhile_run before after left isLetters.2 isLetters.1 right
  unfold decode
  simp only [found, isLetters.1, if_false]
  exact Column.clampedValue_eq_min letters

/-- The row is that of the first run of digits, if it is on the sheet. -/
theorem decode_row_of_run (before after : List Char)
    (left : ∀ c ∈ before, c.isDigit = false) (isDigits : IsDigits digits)
    (right : ∀ c ∈ after.head?, c.isDigit = false) :
    (decode (before ++ (digits ++ after))).row = (Row.ofDigits? digits).getD 1 := by
  have found := Text.takeWhile_dropWhile_run before after left isDigits.2 isDigits.1 right
  unfold decode
  simp only [found]

/-- Letters and digits that name a column and a row are read as these. -/
theorem decode_of_named (isLetters : IsLetters letters) (isDigits : IsDigits digits)
    (column : Column.ofLetters? letters = some address.column)
    (row : Row.ofDigits? digits = some address.row) : decode (letters ++ digits) = address := by
  have noUpper : ∀ c ∈ digits.head?, c.isUpper = false := fun c first =>
    Reference.not_isUpper_of_isDigit (isDigits.2 c (List.mem_of_mem_head? first))
  have noDigit : ∀ c ∈ letters, c.isDigit = false := fun c member =>
    Reference.not_isDigit_of_isUpper (isLetters.2 c member)
  have columnRead := decode_column_of_run [] digits (fun _ member => nomatch member) isLetters
    noUpper
  have rowRead := decode_row_of_run letters [] noDigit isDigits fun _ first => nomatch first
  rw [List.nil_append] at columnRead
  rw [List.append_nil, row, Option.getD_some] at rowRead
  rw [Column.ofLetters?_eq_ite] at column
  split at column
  · next named =>
    rw [Nat.min_eq_left named.2.2, Option.some.inj column] at columnRead
    cases decoded : decode (letters ++ digits)
    rw [decoded] at columnRead rowRead
    exact congrArg₂ Address.mk columnRead rowRead
  · cases column

/-! ## Accepted texts -/

theorem weight_toUpper {c : Char} (alpha : c.isAlpha) :
    Column.weight c.toUpper = Column.weight c := by
  have upper := Reference.isUpper_toUpper alpha
  rw [Column.weight, Reference.toUpper_eq_self (Reference.not_isLower_of_isUpper upper),
    Column.weight]

theorem ofLetters?_map_toUpper (alpha : ∀ c ∈ letters, c.isAlpha) :
    Column.ofLetters? (letters.map Char.toUpper) = Column.ofLetters? letters := by
  have sameValue : Column.value (letters.map Char.toUpper) = Column.value letters := by
    rw [Column.value, Column.value, List.foldl_map]
    refine List.foldl_ext _ _ _ fun total c member => ?_
    rw [weight_toUpper (alpha c member)]
  have raised : (letters.map Char.toUpper).all Char.isAlpha = true := by
    refine List.all_eq_true.mpr fun c member => ?_
    rcases List.mem_map.mp member with ⟨d, original, rfl⟩
    exact Reference.isAlpha_of_isUpper (Reference.isUpper_toUpper (alpha d original))
  have plain : letters.all Char.isAlpha = true := List.all_eq_true.mpr alpha
  rw [Column.ofLetters?_eq_ite, Column.ofLetters?_eq_ite, sameValue, raised, plain]
  simp only [ne_eq, List.map_eq_nil_iff]

/-- What the strict reader accepts are letters of either case and digits. -/
theorem exists_parts_of_parse? {id : String} (parsed : parse? id = some address) :
    ∃ letters digits, id.toList = letters ++ digits ∧ (letters ≠ [] ∧ ∀ c ∈ letters, c.isAlpha) ∧
      IsDigits digits ∧ Column.ofLetters? letters = some address.column ∧
      Row.ofDigits? digits = some address.row := by
  unfold parse? at parsed
  simp only at parsed
  split at parsed
  · next decimal =>
    rcases Option.bind_eq_some_iff.mp parsed with ⟨column, named, parsed⟩
    rcases Option.bind_eq_some_iff.mp parsed with ⟨row, counted, parsed⟩
    rw [← Option.some.inj parsed]
    exact ⟨_, _, List.takeWhile_append_dropWhile.symm, Reference.letters_of_ofLetters? named,
      ⟨Reference.ne_nil_of_ofDigits? counted, List.all_eq_true.mp decimal⟩, named, counted⟩
  · cases parsed

/-- The permissive reader finds the address that the strict one accepts. -/
theorem ofInput_eq_of_parse? {text : String}
    (parsed : parse? (String.ofList (Text.trim text.toList)) = some address) :
    ofInput text = address := by
  rcases exists_parts_of_parse? parsed with
    ⟨letters, digits, whole, ⟨nonempty, alpha⟩, isDigits, column, row⟩
  have raisedLetters : IsLetters (letters.map Char.toUpper) := by
    refine ⟨fun none => nonempty (List.map_eq_nil_iff.mp none), fun c member => ?_⟩
    rcases List.mem_map.mp member with ⟨d, original, rfl⟩
    exact Reference.isUpper_toUpper (alpha d original)
  have sameDigits : digits.map Char.toUpper = digits :=
    Reference.map_toUpper_eq_self fun c member => by
      have digit := Reference.isDigit_iff.mp (isDigits.2 c member)
      rw [Bool.eq_false_iff, ne_eq, Reference.isLower_iff]
      omega
  rw [String.toList_ofList] at whole
  rw [ofInput, whole, List.map_append, sameDigits]
  exact decode_of_named raisedLetters isDigits ((ofLetters?_map_toUpper alpha).trans column) row

/-! ## Canonical identifiers -/

theorem onSheet_ofInput (text : String) : (ofInput text).OnSheet :=
  ⟨⟨Reference.decode_column_pos _, Reference.decode_column_le _⟩, Reference.decode_row_bounds _⟩

/-- Every text has a canonical identifier that the strict reader accepts and
that stays as it is.  Where the strict reader accepts a text less the blanks
around it, the canonical identifier is that of the same cell, and of letters
beyond the sheet the permissive reader makes the last column. -/
theorem canonicalId_agrees_with_parse? :
    (∀ text, ∃ address : Address, parse? (canonicalId text) = some address ∧
      1 ≤ address.column ∧ 1 ≤ address.row ∧ address.id = canonicalId text) ∧
    (∀ text, canonicalId (canonicalId text) = canonicalId text) ∧
    (∀ (text : String) address, parse? (String.ofList (Text.trim text.toList)) = some address →
      CommandLine.isCell text = true ∧ canonicalId text = address.id) ∧
    ∀ before letters after, (∀ c ∈ before, c.isUpper = false) → IsLetters letters →
      (∀ c ∈ after.head?, c.isUpper = false) →
        (decode (before ++ (letters ++ after))).column = min (Column.value letters) lastIndex := by
  refine ⟨fun text => ⟨ofInput text, Reference.parse?_id (onSheet_ofInput text),
    (onSheet_ofInput text).column.1, (onSheet_ofInput text).row.1, rfl⟩,
    Reference.canonicalId_canonicalId, fun text address parsed => ⟨?_, ?_⟩,
    fun before letters after => decode_column_of_run before after⟩
  · rw [CommandLine.isCell, parsed]
    rfl
  · rw [canonicalId, ofInput_eq_of_parse? parsed]

/-- Blanks, lower case and leading zeros around a cell of the sheet, and letters
beyond it. -/
theorem canonicalId_agrees_with_parse?_of_padded_lower_case :
    parse? (canonicalId " \u2003aa0012\u00a0") = some ⟨27, 12⟩ ∧
      CommandLine.isCell " \u2003aa0012\u00a0" = true ∧
      canonicalId " \u2003aa0012\u00a0" = "AA12" ∧
      (decode "7-MWLQKWV.X".toList).column = lastIndex := by
  rcases canonicalId_agrees_with_parse? with ⟨_, _, same, clamped⟩
  have parsed : parse? (String.ofList (Text.trim " \u2003aa0012\u00a0".toList)) =
      some ⟨27, 12⟩ := by decide +kernel
  rcases same _ _ parsed with ⟨isCell, canonical⟩
  have spelled : (Address.mk 27 12).id = "AA12" := by decide +kernel
  have column := clamped ['7', '-'] "MWLQKWV".toList ['.', 'X'] (by simp)
    ⟨by decide, List.all_eq_true.mp rfl⟩ (by simp)
  refine ⟨?_, isCell, canonical.trans spelled, column.trans (by decide +kernel)⟩
  rw [canonical, spelled]
  decide +kernel

end Address
end Worksheet
