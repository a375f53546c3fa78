import Worksheet.Cell.Display
import Worksheet.Proofs.Decimal.Fixed
import Worksheet.Proofs.Decimal.Order
import Worksheet.Proofs.Number.Writing

namespace Worksheet

/-!
Numbers on display.  A typed number is shown rounded to three places, without
the zeros that end it and without the sign of zero, and with commas before the
groups of three digits that its integer part ends with.  Taking the commas out
gives the rounded number back, and their places are determined by the number of
digits that follow.
-/

namespace Number

open Binary64

variable {digits : List Char} {c : Char}

/-! ## Commas -/

/-- How many digits a text has. -/
def digitCount (text : List Char) : Nat :=
  text.countP Char.isDigit

/-- Whether commas stand before the groups of three digits that an integer part
ends with, each behind a digit, and nowhere else. -/
structure IsGrouped (whole : List Char) : Prop where
  digits : ∀ c ∈ whole, c.isDigit ∨ c = ','
  before_group : ∀ before after, whole = before ++ ',' :: after →
    0 < digitCount after ∧ 3 ∣ digitCount after
  after_digit : ∀ before after, whole = before ++ ',' :: after → ∃ c ∈ before.getLast?, c.isDigit
  every_group : ∀ before c after, whole = before ++ c :: after → c.isDigit →
    0 < digitCount after → 3 ∣ digitCount after → after.head? = some ','

theorem digitCount_cons (isDigit : c.isDigit) (text : List Char) :
    digitCount (c :: text) = digitCount text + 1 :=
  List.countP_cons_of_pos isDigit

theorem digitCount_comma (text : List Char) : digitCount (',' :: text) = digitCount text :=
  List.countP_cons_of_neg (by decide)

theorem group_cons (c : Char) (rest : List Char) :
    group (c :: rest) =
      if rest ≠ [] ∧ rest.length % 3 = 0 then c :: ',' :: group rest else c :: group rest := by
  cases rest with
  | nil => rfl
  | cons d rest => simp only [group, ne_eq, reduceCtorEq, not_false_eq_true, true_and]

/-- Grouping adds commas and nothing else. -/
theorem filter_group (noComma : ',' ∉ digits) : (group digits).filter (· ≠ ',') = digits := by
  induction digits with
  | nil => rfl
  | cons c rest ih =>
    rw [List.mem_cons, not_or] at noComma
    have kept (text : List Char) : (c :: text).filter (· ≠ ',') = c :: text.filter (· ≠ ',') :=
      List.filter_cons_of_pos (decide_eq_true (Ne.symm noComma.1))
    have dropped (text : List Char) : (',' :: text).filter (· ≠ ',') = text.filter (· ≠ ',') :=
      List.filter_cons_of_neg (by decide)
    rw [group_cons]
    split
    · rw [kept, dropped, ih noComma.2]
    · rw [kept, ih noComma.2]

theorem digitCount_group (decimal : ∀ c ∈ digits, c.isDigit) :
    digitCount (group digits) = digits.length := by
  induction digits with
  | nil => rfl
  | cons c rest ih =>
    rcases List.forall_mem_cons.mp decimal with ⟨here, later⟩
    rw [group_cons]
    split
    · rw [digitCount_cons here, digitCount_comma, ih later, List.length_cons]
    · rw [digitCount_cons here, ih later, List.length_cons]

theorem head?_group (digits : List Char) : (group digits).head? = digits.head? := by
  cases digits with
  | nil => rfl
  | cons c rest =>
    rw [group_cons]
    split <;> rfl

section

variable {whole : List Char} (grouped : IsGrouped whole) (isDigit : c.isDigit)
include grouped isDigit

/-- A digit before a grouped text, where no group begins. -/
theorem IsGrouped.cons (within : 0 < digitCount whole → ¬3 ∣ digitCount whole) :
    IsGrouped (c :: whole) where
  -- The new character is a digit, so every comma is one of the old text.
  digits := List.forall_mem_cons.mpr ⟨.inl isDigit, grouped.digits⟩
  before_group before after parts := by
    rcases List.cons_eq_append_iff.mp parts with ⟨_, first⟩ | ⟨earlier, _, later⟩
    · cases first
      cases isDigit
    · exact grouped.before_group earlier after later
  after_digit before after parts := by
    rcases List.cons_eq_append_iff.mp parts with ⟨_, first⟩ | ⟨earlier, rfl, later⟩
    · cases first
      cases isDigit
    · rcases grouped.after_digit earlier after later with ⟨last, member, digit⟩
      refine ⟨last, ?_, digit⟩
      rw [Option.mem_def, List.getLast?_cons, Option.mem_def.mp member, Option.getD_some]
  every_group before d after parts digit positive multiple := by
    rcases List.cons_eq_append_iff.mp parts with ⟨_, first⟩ | ⟨earlier, _, later⟩
    · cases first
      exact absurd multiple (within positive)
    · exact grouped.every_group earlier d after later digit positive multiple

/-- A digit and a comma before a grouped text, where a group begins. -/
theorem IsGrouped.cons_comma (positive : 0 < digitCount whole) (multiple : 3 ∣ digitCount whole) :
    IsGrouped (c :: ',' :: whole) where
  digits := List.forall_mem_cons.mpr
    ⟨.inl isDigit, List.forall_mem_cons.mpr ⟨.inr rfl, grouped.digits⟩⟩
  before_group before after parts := by
    rcases List.cons_eq_append_iff.mp parts with ⟨_, first⟩ | ⟨earlier, _, later⟩
    · cases first
      cases isDigit
    · rcases List.cons_eq_append_iff.mp later with ⟨_, second⟩ | ⟨inner, _, inside⟩
      · cases second
        exact ⟨positive, multiple⟩
      · exact grouped.before_group inner after inside
  after_digit before after parts := by
    rcases List.cons_eq_append_iff.mp parts with ⟨_, first⟩ | ⟨earlier, rfl, later⟩
    · cases first
      cases isDigit
    · rcases List.cons_eq_append_iff.mp later with ⟨rfl, _⟩ | ⟨inner, rfl, inside⟩
      · exact ⟨c, rfl, isDigit⟩
      · rcases grouped.after_digit inner after inside with ⟨last, member, digit⟩
        refine ⟨last, ?_, digit⟩
        rw [Option.mem_def, List.getLast?_cons, List.getLast?_cons, Option.mem_def.mp member,
          Option.getD_some, Option.getD_some]
  every_group before d after parts digit positive multiple := by
    rcases List.cons_eq_append_iff.mp parts with ⟨_, first⟩ | ⟨earlier, _, later⟩
    · cases first
      rfl
    · rcases List.cons_eq_append_iff.mp later with ⟨_, second⟩ | ⟨inner, _, inside⟩
      · cases second
        cases digit
      · exact grouped.every_group inner d after inside digit positive multiple

end

theorem isGrouped_nil : IsGrouped [] where
  digits _ member := nomatch member
  before_group _ _ parts := nomatch (List.nil_eq_append_iff.mp parts).2
  after_digit _ _ parts := nomatch (List.nil_eq_append_iff.mp parts).2
  every_group _ _ _ parts := nomatch (List.nil_eq_append_iff.mp parts).2

/-- The commas of a grouped sequence of digits stand before its groups of three. -/
theorem isGrouped_group (decimal : ∀ c ∈ digits, c.isDigit) : IsGrouped (group digits) := by
  induction digits with
  | nil => exact isGrouped_nil
  | cons c rest ih =>
    rcases List.forall_mem_cons.mp decimal with ⟨here, later⟩
    -- Whether a group begins behind a digit depends on how many digits are left.
    have count := digitCount_group later
    have grouped := ih later
    rw [group_cons]
    split
    next begins =>
      exact grouped.cons_comma here (count ▸ List.length_pos_iff.mpr begins.1)
        (count ▸ Nat.dvd_of_mod_eq_zero begins.2)
    next within =>
      refine grouped.cons here fun positive multiple => within ⟨?_, ?_⟩
      · exact List.length_pos_iff.mp (count ▸ positive)
      · exact Nat.mod_eq_zero_of_dvd (count ▸ multiple)

/-! ## Places -/

/-- A number in places without the zeros that end it, and without a point that is
left at its end. -/
def withoutEmptyPlaces (text : List Char) : List Char :=
  (text.rdropWhile (· = '0')).rdropWhile (· = '.')

/-- The places after a point, with the point if there are any. -/
def pointed (places : List Char) : List Char :=
  if places = [] then [] else '.' :: places

/-- The zeros end at the point, and the point goes if there are only zeros. -/
theorem withoutEmptyPlaces_point {front fraction : List Char}
    (lastDigit : ∀ c ∈ front.getLast?, c.isDigit) (decimal : ∀ c ∈ fraction, c.isDigit) :
    withoutEmptyPlaces (front ++ '.' :: fraction) =
      front ++ pointed (fraction.rdropWhile (· = '0')) := by
  have noPoint : ∀ c : Char, c.isDigit → decide (c = '.') = false := by
    intro c digit
    rw [decide_eq_false_iff_not]
    rintro rfl
    cases digit
  rw [withoutEmptyPlaces, Text.rdropWhile_append_cons (by decide), pointed]
  split
  next zeros =>
    rw [zeros, List.rdropWhile_concat_pos _ _ _ (by decide), List.append_nil]
    exact Text.rdropWhile_eq_self fun c last => noPoint c (lastDigit c last)
  next significant =>
    apply Text.rdropWhile_eq_self
    intro c last
    rw [List.append_cons, List.getLast?_append_of_ne_nil _ significant] at last
    have kept := (List.rdropWhile_prefix _ _).subset (List.mem_of_getLast? last)
    exact noPoint c (decimal c kept)

/-! ## The sign of zero -/

/-- A number is shown as zero if all its digits are zeros. -/
theorem shows_zero_iff {whole fraction : List Char} (decimalWhole : ∀ c ∈ whole, c.isDigit)
    (decimal : ∀ c ∈ fraction, c.isDigit) :
    ((group whole).all (fun c => c = '0' || c = ',') &&
      fraction.rdropWhile (· = '0') = []) = true ↔
      Numeral.value whole = 0 ∧ Numeral.value fraction = 0 := by
  have noComma : ',' ∉ whole := fun member => nomatch decimalWhole _ member
  -- Without its commas the grouped text is the text again.
  have ungrouped : (group whole).all (fun c => c = '0' || c = ',') = whole.all (· = '0') := by
    conv_rhs => rw [← filter_group noComma, List.all_filter]
    simp [Bool.or_comm]
  rw [ungrouped, Bool.and_eq_true, decide_eq_true_iff, List.rdropWhile_eq_nil_iff,
    Numeral.value_eq_zero_iff decimalWhole, Numeral.value_eq_zero_iff decimal]
  simp only [List.all_eq_true, decide_eq_true_iff]

/-! ## Grouped forms -/

/-- Whether a text is a written number with commas in its integer part. -/
structure IsGroupedForm (written shown : List Char) : Prop where
  parts : ∃ minus whole places, shown = minus ++ (whole ++ places) ∧
    (minus = [] ∨ minus = ['-']) ∧ IsGrouped whole ∧
    (places = [] ∨ ∃ digits, places = '.' :: digits ∧ ∀ c ∈ digits, c.isDigit)
  content : shown.filter (· ≠ ',') = written
  first : shown.head? ≠ some ','

theorem mem_pointed {places : List Char} (decimal : ∀ c ∈ places, c.isDigit)
    (member : c ∈ pointed places) : c = '.' ∨ c.isDigit := by
  unfold pointed at member
  split at member
  · cases member
  · exact (List.mem_cons.mp member).imp id (decimal c)

theorem isGroupedForm {minus whole places : List Char} (isMinus : minus = [] ∨ minus = ['-'])
    (nonempty : whole ≠ []) (decimalWhole : ∀ c ∈ whole, c.isDigit)
    (decimal : ∀ c ∈ places, c.isDigit) :
    IsGroupedForm (minus ++ (whole ++ pointed places))
      (minus ++ (group whole ++ pointed places)) where
  parts := by
    refine ⟨minus, group whole, pointed places, rfl, isMinus, isGrouped_group decimalWhole, ?_⟩
    unfold pointed
    split
    · exact .inl rfl
    · exact .inr ⟨places, rfl, decimal⟩
  content := by
    have keptMinus : minus.filter (· ≠ ',') = minus := by
      rcases isMinus with rfl | rfl <;> rfl
    have keptPlaces : (pointed places).filter (· ≠ ',') = pointed places := by
      rw [List.filter_eq_self]
      intro c member
      rw [decide_eq_true_iff]
      rintro rfl
      rcases mem_pointed decimal member with point | digit
      · cases point
      · cases digit
    rw [List.filter_append, List.filter_append, keptMinus, keptPlaces,
      filter_group fun member => nomatch decimalWhole _ member]
  first := by
    rcases isMinus with rfl | rfl
    · rw [List.nil_append, List.head?_append, head?_group, List.head?_eq_some_head nonempty,
        Option.some_or, ne_eq, Option.some_inj]
      intro comma
      cases comma ▸ decimalWhole _ (List.head_mem nonempty)
    · exact fun comma => nomatch comma

/-! ## Shown numbers -/

theorem isDigit_head?_append (nonempty : digits ≠ []) (decimal : ∀ c ∈ digits, c.isDigit)
    (other : List Char) : ∀ c ∈ (digits ++ other).head?, c.isDigit := by
  intro c first
  rw [List.head?_append_of_ne_nil _ nonempty] at first
  exact decimal c (List.mem_of_mem_head? first)

section

variable {number : Float} {magnitude : Nat} {negative minus : Bool} {whole fraction : List Char}
variable (chars : fixedChars number 3 = sign minus ++ (whole ++ '.' :: fraction))
variable (nonempty : whole ≠ []) (decimalWhole : ∀ c ∈ whole, c.isDigit)
variable (decimal : ∀ c ∈ fraction, c.isDigit)
include chars nonempty decimalWhole decimal

/-- The grouped digits stand behind the sign unless they are all zeros. -/
theorem grouped_of_fixed (pattern : kind number = .finite negative magnitude)
    (small : exceedsFixed magnitude = false) : grouped number = String.ofList
    ((if Numeral.value whole = 0 ∧ Numeral.value fraction = 0 then [] else sign minus) ++
      group whole ++ pointed (fraction.rdropWhile (· = '0'))) := by
  have noPoint : ∀ c ∈ whole, decide (c ≠ '.') = true := by
    intro c member
    rw [decide_eq_true_iff]
    rintro rfl
    cases decimalWhole _ member
  have first := isDigit_head?_append nonempty decimalWhole ('.' :: fraction)
  have cut := (isSign_sign minus).cutSign_append fun c member =>
    Decimal.ne_sign_of_isDigit (first c member)
  have before : (whole ++ '.' :: fraction).takeWhile (· ≠ '.') = whole := by
    rw [Text.takeWhile_append_cons (by decide), List.takeWhile_eq_self_iff.mpr noPoint]
  have after : (whole ++ '.' :: fraction).drop (whole.length + 1) = fraction := by
    rw [List.append_cons, List.drop_left' (by simp)]
  have signs := if_congr (shows_zero_iff decimalWhole decimal) (Eq.refl ([] : List Char))
    (Eq.refl (sign minus))
  rw [grouped, pattern, ← signs]
  simp only [small, chars, cut, before, after, Bool.false_eq_true, if_false]
  rfl

theorem withoutEmptyPlaces_fixed : withoutEmptyPlaces (fixed number 3).toList =
    sign minus ++ (whole ++ pointed (fraction.rdropWhile (· = '0'))) := by
  have lastDigit : ∀ c ∈ (sign minus ++ whole).getLast?, c.isDigit := by
    intro c last
    rw [List.getLast?_append_of_ne_nil _ nonempty] at last
    exact decimalWhole c (List.mem_of_getLast? last)
  rw [fixed, String.toList_ofList, chars, ← List.append_assoc,
    withoutEmptyPlaces_point lastDigit decimal, List.append_assoc]

/-- A number is shown as its fixed form with three places, less the zeros that end
it, less the sign of zero, and with commas. -/
theorem isGroupedForm_of_fixed (pattern : kind number = .finite negative magnitude)
    (small : exceedsFixed magnitude = false) :
    let written := withoutEmptyPlaces (fixed number 3).toList
    IsGroupedForm (if Numeral.value whole = 0 ∧ Numeral.value fraction = 0
      then written.dropWhile (· = '-') else written) (grouped number).toList := by
  have significant : ∀ c ∈ fraction.rdropWhile (· = '0'), c.isDigit := fun c member =>
    decimal c ((List.rdropWhile_prefix _ _).subset member)
  rw [grouped_of_fixed chars nonempty decimalWhole decimal pattern small,
    withoutEmptyPlaces_fixed chars nonempty decimalWhole decimal, String.toList_ofList,
    List.append_assoc]
  dsimp only
  split
  next zero =>
    have signs : ∀ c ∈ sign minus, decide (c = '-') = true := by
      cases minus with
      | false => exact fun _ member => nomatch member
      | true => exact List.forall_mem_singleton.mpr rfl
    have digits : ∀ c ∈ (whole ++ pointed (fraction.rdropWhile (· = '0'))).head?,
        decide (c = '-') = false := fun c first =>
      decide_eq_false
        (Decimal.ne_sign_of_isDigit (isDigit_head?_append nonempty decimalWhole _ c first)).2
    rw [List.dropWhile_append_of_pos signs, Text.dropWhile_eq_self digits]
    exact isGroupedForm (.inl rfl) nonempty decimalWhole significant
  next nonzero =>
    have isMinus : sign minus = [] ∨ sign minus = ['-'] := by
      cases minus
      · exact .inl rfl
      · exact .inr rfl
    exact isGroupedForm isMinus nonempty decimalWhole significant

end

theorem isGroupedForm_grouped {number : Float} {real : ℚ} (finite : toRat? number = some real)
    (small : |real| < 10 ^ 21) :
    let rounded := ⌊|real| * 10 ^ 3 + 1 / 2⌋₊
    let written := withoutEmptyPlaces (fixed number 3).toList
    IsGroupedForm (if rounded = 0 then written.dropWhile (· = '-') else written)
      (grouped number).toList := by
  intro rounded written
  rcases toRat?_eq_some_iff.mp finite with ⟨negative, magnitude, pattern, rfl⟩
  have digits := fixed_exact magnitude (show 3 ≤ 1100 by decide)
  rw [← abs_signed negative] at digits
  have chars := fixedChars_of_lt pattern small 3
  rw [digits] at chars
  have zero : rounded = 0 ↔ Numeral.value (Numeral.ofNat (rounded / 10 ^ 3)) = 0 ∧
      Numeral.value (Numeral.padded 3 (rounded % 10 ^ 3)) = 0 := by
    rw [Numeral.value_ofNat, Numeral.value_padded]
    omega
  rw [if_congr zero rfl rfl]
  exact isGroupedForm_of_fixed chars (Reference.ofNat_ne_nil _)
    (fun _ => Reference.isDigit_of_mem_ofNat) (fun _ => Numeral.isDigit_of_mem_padded) pattern
    (exceedsFixed_of_lt small)

end Number

namespace Cell

open Binary64 Number

/-- A cell with a typed number shows it with three places, less the zeros that end
them, and with commas before the groups of its integer part.  A minus is left out
if the number is rounded to zero. -/
theorem display_groups_rounded_number {cell : Cell} {value : String} {number : Float} {real : ℚ}
    (typed : cell.hasFormula = false) (isNumber : cell.type = some .number)
    (held : cell.value = some value) (parsed : parse? value = some number)
    (finite : toRat? number = some real) (small : |real| < 10 ^ 21) :
    let rounded := ⌊|real| * 10 ^ 3 + 1 / 2⌋₊
    let written := withoutEmptyPlaces (fixed number 3).toList
    IsGroupedForm (if rounded = 0 then written.dropWhile (· = '-') else written)
      cell.display.toList := by
  have nonempty : value.isEmpty = false := by
    by_contra empty
    rw [Bool.not_eq_false, String.isEmpty_iff] at empty
    rw [empty] at parsed
    cases parsed
  have shown : cell.display = grouped number := by
    rw [display, held, Option.getD_some, nonempty, typed, isNumber, Option.getD_some, displayAs]
    simp only [parsed, isFinite_iff.mpr ⟨real, finite⟩, Bool.or_self, Bool.false_eq_true, if_false,
      if_true]
  rw [shown]
  exact isGroupedForm_grouped finite small

theorem display_groups_rounded_number_with_carry :
    let cell : Cell := { value := some "-999999.999755859375 m", type := some .number }
    IsGroupedForm "-1000000".toList cell.display.toList ∧ cell.display = "-1,000,000" := by
  intro cell
  have finite : toRat? (-999999.999755859375) = some (-4095999999 / 4096) := by
    have pattern : kind (-999999.999755859375) = .finite true 0x412E847FFFE00000 := by
      decide +kernel
    have parts : exact 0x412E847FFFE00000 = ⟨4095999999 * 2 ^ 21, -33⟩ := by decide +kernel
    refine toRat?_eq_some_iff.mpr ⟨true, _, pattern, ?_⟩
    rw [if_pos rfl, Binary64.value, parts, Binary64.Dyadic.toRat]
    norm_num
  have parsed : parse? "-999999.999755859375 m" = some (-999999.999755859375) := by
    decide +kernel
  have rounded : ⌊|(-4095999999 / 4096 : ℚ)| * 10 ^ 3 + 1 / 2⌋₊ = 1000000000 := by
    norm_num [abs_div]
  have written : withoutEmptyPlaces (fixed (-999999.999755859375) 3).toList =
      "-1000000".toList := by
    decide +kernel
  have form := @display_groups_rounded_number cell _ _ _ rfl rfl rfl parsed finite
    (by norm_num [abs_div])
  rw [rounded, written] at form
  refine ⟨form, ?_⟩
  decide +kernel

end Cell
end Worksheet
