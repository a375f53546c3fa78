import Worksheet.Formula.Relocation
import Worksheet.Proofs.Reference.Identifier
import Worksheet.Proofs.Reference.Rewriting

namespace Worksheet

/-!
Shifted addresses and references.  Shifting the reference that a token spells
keeps the shape of the token.  An address that is still on the sheet after the
move is moved by exactly the distance asked for, and its identifier is read
back as the moved address.
-/

/-! ## Addresses on the sheet -/

/-- Whether a number is that of a column or a row. -/
def IsIndex (index : Nat) : Prop :=
  0 < index ∧ index ≤ lastIndex

instance (index : Nat) : Decidable (IsIndex index) :=
  inferInstanceAs (Decidable (_ ∧ _))

namespace Address

/-- Whether an address is that of a cell. -/
structure OnSheet (address : Address) : Prop where
  column : IsIndex address.column
  row : IsIndex address.row

/-- Whether an address is that of a cell after a move by columns and rows. -/
structure Movable (columns rows : Int) (address : Address) : Prop where
  column : 0 < address.column + columns ∧ address.column + columns ≤ lastIndex
  row : 0 < address.row + rows ∧ address.row + rows ≤ lastIndex

variable {columns rows distance : Int} {index : Nat} {address : Address}

theorem coe_shiftIndex (bounds : 0 < index + distance ∧ index + distance ≤ lastIndex) :
    (shiftIndex index distance : Int) = index + distance := by
  rw [shiftIndex, if_pos bounds]
  exact Int.toNat_of_nonneg (Int.le_of_lt bounds.1)

theorem shiftIndex_zero (index : Nat) : shiftIndex index 0 = index := by
  simp [shiftIndex]

theorem isIndex_shiftIndex (isIndex : IsIndex index) (distance : Int) :
    IsIndex (shiftIndex index distance) := by
  unfold shiftIndex
  simp only
  split
  · next bounds =>
    constructor
    · omega
    · omega
  · exact isIndex

theorem OnSheet.shift (onSheet : OnSheet address) (columns rows : Int) :
    OnSheet (address.shift columns rows) :=
  ⟨isIndex_shiftIndex onSheet.column columns, isIndex_shiftIndex onSheet.row rows⟩

theorem Movable.coe_column (movable : Movable columns rows address) :
    ((address.shift columns rows).column : Int) = address.column + columns :=
  coe_shiftIndex movable.column

theorem Movable.coe_row (movable : Movable columns rows address) :
    ((address.shift columns rows).row : Int) = address.row + rows :=
  coe_shiftIndex movable.row

end Address

namespace Reference

variable {letters digits text : List Char} {columnFixed rowFixed : Bool}

/-! ## Reading tokens -/

theorem not_isAlpha_of_isDigit {c : Char} (digit : c.isDigit) : c.isAlpha = false := by
  rw [isDigit_iff] at digit
  rw [Bool.eq_false_iff]
  intro alpha
  change (c.isUpper || c.isLower) = true at alpha
  rw [Bool.or_eq_true, isUpper_iff, isLower_iff] at alpha
  omega

theorem isIndex_of_ofLetters? {column : Nat} (named : Column.ofLetters? letters = some column) :
    IsIndex column := by
  rw [Column.ofLetters?_eq_ite] at named
  split at named
  · next parts =>
    rw [← Option.some.inj named]
    exact ⟨value_pos parts.1 (List.all_eq_true.mp parts.2.1), parts.2.2⟩
  · cases named

theorem ofLetters?_letters {column : Nat} (isIndex : IsIndex column) :
    Column.ofLetters? (Column.letters column) = some column := by
  have alpha : (Column.letters column).all Char.isAlpha = true :=
    List.all_eq_true.mpr fun c member => isAlpha_of_isUpper (isUpper_of_mem_letters member)
  rw [Column.ofLetters?_eq_ite, Column.value_letters]
  exact if_pos ⟨letters_ne_nil isIndex.1, alpha, isIndex.2⟩

theorem ofDigits?_ofNat {row : Nat} (isIndex : IsIndex row) :
    Row.ofDigits? (Numeral.ofNat row) = some row := by
  rw [Row.ofDigits?, Numeral.value_ofNat]
  exact if_pos isIndex

theorem isLetters_letters {column : Nat} (positive : 0 < column) :
    IsLetters (Column.letters column) :=
  ⟨letters_ne_nil positive, fun _ member => isUpper_of_mem_letters member⟩

theorem isDigits_ofNat (row : Nat) : IsDigits (Numeral.ofNat row) :=
  ⟨ofNat_ne_nil row, fun _ member => isDigit_of_mem_ofNat member⟩

theorem isAlpha_of_mem_letters (isLetters : IsLetters letters) :
    ∀ c ∈ letters, c.isAlpha :=
  fun c member => isAlpha_of_isUpper (isLetters.2 c member)

theorem not_isAlpha_head? (isDigits : IsDigits digits) :
    ∀ c ∈ (dollar rowFixed ++ digits).head?, c.isAlpha = false := by
  rcases List.exists_cons_of_ne_nil isDigits.1 with ⟨digit, later, rfl⟩
  intro c first
  cases rowFixed with
  | true =>
    rw [← Option.some.inj first]
    rfl
  | false =>
    rw [← Option.some.inj first]
    exact not_isAlpha_of_isDigit (isDigits.2 digit List.mem_cons_self)

theorem takeWhile_isAlpha (rowFixed : Bool) (isLetters : IsLetters letters)
    (isDigits : IsDigits digits) :
    (letters ++ (dollar rowFixed ++ digits)).takeWhile Char.isAlpha = letters := by
  rw [List.takeWhile_append_of_pos (isAlpha_of_mem_letters isLetters),
    Text.takeWhile_eq_nil (not_isAlpha_head? isDigits), List.append_nil]

theorem dropWhile_isAlpha (rowFixed : Bool) (isLetters : IsLetters letters)
    (isDigits : IsDigits digits) :
    (letters ++ (dollar rowFixed ++ digits)).dropWhile Char.isAlpha =
      dollar rowFixed ++ digits := by
  rw [List.dropWhile_append_of_pos (isAlpha_of_mem_letters isLetters),
    Text.dropWhile_eq_self (not_isAlpha_head? isDigits)]

/-- A token is read part by part. -/
theorem ofChars?_token (isLetters : IsLetters letters) (isDigits : IsDigits digits) :
    ofChars? (dollar columnFixed ++ (letters ++ (dollar rowFixed ++ digits))) = do
      let column ← Column.ofLetters? letters
      let row ← Row.ofDigits? digits
      return ⟨⟨column, row⟩, columnFixed, rowFixed⟩ := by
  have isToken : IsToken (dollar columnFixed ++ (letters ++ (dollar rowFixed ++ digits))) :=
    ⟨columnFixed, letters, rowFixed, digits, rfl, isLetters, isDigits⟩
  have lettersFirst : (letters ++ (dollar rowFixed ++ digits)).head? ≠ some '$' := by
    rcases List.exists_cons_of_ne_nil isLetters.1 with ⟨letter, others, rfl⟩
    exact fun same => ne_dollar_of_isUpper (isLetters.2 letter List.mem_cons_self)
      (Option.some.inj same)
  have digitsFirst : digits.head? ≠ some '$' := by
    rcases List.exists_cons_of_ne_nil isDigits.1 with ⟨digit, later, rfl⟩
    exact fun same => ne_dollar_of_isDigit (isDigits.2 digit List.mem_cons_self)
      (Option.some.inj same)
  have decimal : digits.all Char.isDigit = true := List.all_eq_true.mpr isDigits.2
  have trimmed := trim_eq_self fun c member =>
    isReferenceChar_of_isTokenChar (isToken.isTokenChar member)
  unfold ofChars?
  simp only [trimmed, takeDollar_dollar_append columnFixed lettersFirst,
    takeWhile_isAlpha rowFixed isLetters isDigits, dropWhile_isAlpha rowFixed isLetters isDigits,
    takeDollar_dollar_append rowFixed digitsFirst, decimal, if_true]

/-- A shift gives letters and digits to a token that is a reference, and leaves
one alone that is none. -/
theorem keepsShape_shiftToken (columns rows : Int) :
    KeepsShape (Formula.shiftToken columns rows) := by
  intro columnFixed letters rowFixed digits isLetters isDigits
  unfold Formula.shiftToken
  rw [ofChars?_token isLetters isDigits]
  cases named : Column.ofLetters? letters with
  | none => exact ⟨letters, digits, isLetters, isDigits, rfl⟩
  | some column =>
    cases Row.ofDigits? digits with
    | none => exact ⟨letters, digits, isLetters, isDigits, rfl⟩
    | some row =>
      let moved := (Reference.mk ⟨column, row⟩ columnFixed rowFixed).shift columns rows
      have isIndex : IsIndex moved.address.column :=
        Address.isIndex_shiftIndex (isIndex_of_ofLetters? named) _
      refine ⟨Column.letters moved.address.column, Numeral.ofNat moved.address.row,
        isLetters_letters isIndex.1, isDigits_ofNat _, ?_⟩
      change moved.chars = _
      rw [chars, List.append_assoc, List.append_assoc]
      rfl

theorem shift_zero (reference : Reference) : reference.shift 0 0 = reference := by
  simp [shift, Address.shift, Address.shiftIndex_zero]

/-! ## Spelled addresses -/

variable {columns rows : Int} {address : Address}

theorem chars_free (address : Address) : chars ⟨address, false, false⟩ = address.chars := by
  simp [chars, dollar, Address.chars]

/-- A reference to a cell is read back from its spelling, with its dollar
signs. -/
theorem ofChars?_spelled {reference : Reference} (onSheet : reference.address.OnSheet) :
    ofChars? reference.chars = some reference := by
  rw [chars, List.append_assoc, List.append_assoc,
    ofChars?_token (isLetters_letters onSheet.column.1) (isDigits_ofNat _),
    ofLetters?_letters onSheet.column, ofDigits?_ofNat onSheet.row]
  rfl

theorem ofChars?_chars (onSheet : address.OnSheet) :
    ofChars? address.chars = some ⟨address, false, false⟩ := by
  rw [← chars_free]
  exact ofChars?_spelled onSheet

theorem shiftToken_chars (onSheet : address.OnSheet) :
    Formula.shiftToken columns rows address.chars = (address.shift columns rows).chars := by
  rw [Formula.shiftToken, ofChars?_chars onSheet]
  exact chars_free _

/-- A token without dollar signs that is the spelling of its reference is the
spelling of an address on the sheet. -/
theorem eq_chars_of_ofChars? {token : List Char} {reference : Reference} (isToken : IsToken token)
    (noDollar : '$' ∉ token) (accepted : ofChars? token = some reference)
    (spelled : reference.chars = token) :
    token = reference.address.chars ∧ reference.address.OnSheet := by
  rcases isToken with ⟨columnFixed, letters, rowFixed, digits, rfl, isLetters, isDigits⟩
  rw [ofChars?_token isLetters isDigits] at accepted
  rcases Option.bind_eq_some_iff.mp accepted with ⟨column, named, accepted⟩
  rcases Option.bind_eq_some_iff.mp accepted with ⟨row, counted, accepted⟩
  have same := Option.some.inj accepted
  have free : columnFixed = false ∧ rowFixed = false := by
    constructor
    · rw [Bool.eq_false_iff]
      rintro rfl
      exact noDollar (by simp [dollar])
    · rw [Bool.eq_false_iff]
      rintro rfl
      exact noDollar (by simp [dollar])
  rw [← spelled, ← same, free.1, free.2]
  exact ⟨chars_free _, isIndex_of_ofLetters? named, bounds_of_ofDigits? counted⟩

/-- Letters with digits behind them are read part by part. -/
theorem parse?_append (isLetters : IsLetters letters) (isDigits : IsDigits digits) :
    Address.parse? (String.ofList (letters ++ digits)) = do
      let column ← Column.ofLetters? letters
      let row ← Row.ofDigits? digits
      return ⟨column, row⟩ := by
  have taken : (letters ++ digits).takeWhile Char.isAlpha = letters :=
    takeWhile_isAlpha false isLetters isDigits
  have dropped : (letters ++ digits).dropWhile Char.isAlpha = digits :=
    dropWhile_isAlpha false isLetters isDigits
  have decimal : digits.all Char.isDigit = true := List.all_eq_true.mpr isDigits.2
  unfold Address.parse?
  simp only [String.toList_ofList, taken, dropped, decimal, if_true]

/-- The identifier of an address on the sheet is read back as the address. -/
theorem parse?_id (onSheet : address.OnSheet) : Address.parse? address.id = some address := by
  rw [Address.id, Address.chars,
    parse?_append (isLetters_letters onSheet.column.1) (isDigits_ofNat _),
    ofLetters?_letters onSheet.column, ofDigits?_ofNat onSheet.row]
  rfl

/-- What the strict reader accepts is on the sheet. -/
theorem onSheet_of_parse? {id : String} (parsed : Address.parse? id = some address) :
    address.OnSheet := by
  unfold Address.parse? at parsed
  simp only at parsed
  split at parsed
  · rcases Option.bind_eq_some_iff.mp parsed with ⟨column, named, parsed⟩
    rcases Option.bind_eq_some_iff.mp parsed with ⟨row, counted, parsed⟩
    rw [← Option.some.inj parsed]
    exact ⟨isIndex_of_ofLetters? named, bounds_of_ofDigits? counted⟩
  · cases parsed

/-- Addresses have different identifiers, also off the sheet: the letters end
where the first digit stands. -/
theorem id_inj {other : Address} : address.id = other.id ↔ address = other := by
  refine ⟨fun same => ?_, congrArg Address.id⟩
  have letters (address : Address) :
      address.chars.takeWhile Char.isAlpha = Column.letters address.column := by
    have begins : ∀ c ∈ (Numeral.ofNat address.row).head?, c.isAlpha = false :=
      fun c first => not_isAlpha_of_isDigit (isDigit_of_mem_ofNat (List.mem_of_mem_head? first))
    rw [Address.chars, List.takeWhile_append_of_pos
      fun c member => isAlpha_of_isUpper (isUpper_of_mem_letters member),
      Text.takeWhile_eq_nil begins, List.append_nil]
  have spelled : address.chars = other.chars := String.ofList_injective same
  have sameLetters : Column.letters address.column = Column.letters other.column := by
    rw [← letters, ← letters, spelled]
  have sameDigits : Numeral.ofNat address.row = Numeral.ofNat other.row := by
    rw [Address.chars, Address.chars, sameLetters] at spelled
    exact List.append_cancel_left spelled
  have sameColumn := congrArg Column.value sameLetters
  have sameRow := congrArg Numeral.value sameDigits
  rw [Column.value_letters, Column.value_letters] at sameColumn
  rw [Numeral.value_ofNat, Numeral.value_ofNat] at sameRow
  cases address
  cases other
  exact congrArg₂ Address.mk sameColumn sameRow

end Reference
end Worksheet
