import Worksheet.Json.Number
import Worksheet.Proofs.Decimal.Pattern
import Worksheet.Proofs.Decimal.Shortest
import Worksheet.Proofs.Json.Record
import Worksheet.Proofs.Reference.Identifier

namespace Worksheet
namespace Json

/-!
The numbers that are written.  Natural numbers and doubles get literals that
JSON admits: no leading zero, digits on both sides of a point, and an exponent
with digits.  A natural number below 2^64 is read back; whether a double is
depends on its decimal, since the reader does not always round to the nearest.
-/

variable {digits rest : List Char} {stage next : NumberStage} {number : Nat} {c : Char}

/-! ## Stages -/

theorem numberStage?_append (begun : numberStage? digits = some stage) (rest : List Char) :
    numberStage? (digits ++ rest) = rest.foldlM NumberStage.next? stage := by
  cases digits with
  | nil => cases begun
  | cons c later =>
    rcases Option.bind_eq_some_iff.mp begun with ⟨first, begins, stages⟩
    have stages : later.foldlM NumberStage.next? first = some stage := stages
    rw [List.cons_append, numberStage?, begins, Option.bind_some, List.foldlM_append, stages]
    rfl

/-- Digits leave a stage that ends in digits as it is. -/
theorem stages_digits (stays : ∀ c : Char, c.isDigit → stage.next? c = some stage)
    (decimal : ∀ c ∈ digits, c.isDigit) : digits.foldlM NumberStage.next? stage = some stage := by
  induction digits with
  | nil => rfl
  | cons c later ih =>
    rw [List.foldlM_cons, stays c (decimal c List.mem_cons_self)]
    exact ih fun d member => decimal d (List.mem_cons_of_mem c member)

theorem next?_whole (digit : c.isDigit) : NumberStage.whole.next? c = some .whole :=
  if_pos digit

theorem next?_point (digit : c.isDigit) : NumberStage.point.next? c = some .fraction :=
  if_pos digit

theorem next?_fraction (digit : c.isDigit) : NumberStage.fraction.next? c = some .fraction :=
  if_pos digit

theorem next?_exponentSign (digit : c.isDigit) :
    NumberStage.exponentSign.next? c = some .exponent :=
  if_pos digit

theorem next?_exponent (digit : c.isDigit) : NumberStage.exponent.next? c = some .exponent :=
  if_pos digit

/-- Digits after which a stage is reached that ends in digits. -/
theorem stages_first_digit (begins : ∀ c : Char, c.isDigit → stage.next? c = some next)
    (stays : ∀ c : Char, c.isDigit → next.next? c = some next) (nonempty : digits ≠ [])
    (decimal : ∀ c ∈ digits, c.isDigit) : digits.foldlM NumberStage.next? stage = some next := by
  rcases List.exists_cons_of_ne_nil nonempty with ⟨c, later, rfl⟩
  rw [List.foldlM_cons, begins c (decimal c List.mem_cons_self)]
  exact stages_digits stays fun d member => decimal d (List.mem_cons_of_mem c member)

/-! ## Natural numbers -/

/-- Whether a text is a numeral without leading zeros. -/
structure Significant (digits : List Char) : Prop where
  decimal : ∀ c ∈ digits, c.isDigit
  leading : ∃ c ∈ digits.head?, c ≠ '0'

theorem Significant.ne_nil (significant : Significant digits) : digits ≠ [] := by
  rintro rfl
  rcases significant.leading with ⟨c, first, _⟩
  cases first

theorem head?_ofNat (positive : 0 < number) : ∃ c ∈ (Numeral.ofNat number).head?, c ≠ '0' := by
  fun_induction Numeral.ofNat number with
  | case1 number small =>
    refine ⟨Numeral.digit number, rfl, fun same => ?_⟩
    have value := Numeral.digitValue_digit small
    rw [same] at value
    exact positive.ne value
  | case2 number large ih =>
    rcases ih (by omega) with ⟨c, first, different⟩
    refine ⟨c, ?_, different⟩
    rw [List.head?_append, first]
    rfl

theorem significant_ofNat (positive : 0 < number) : Significant (Numeral.ofNat number) :=
  ⟨fun _ member => Reference.isDigit_of_mem_ofNat member, head?_ofNat positive⟩

theorem Significant.first? (significant : Significant digits) :
    ∃ c later, digits = c :: later ∧ c.isDigit ∧ NumberStage.first? c = some .whole := by
  rcases significant.leading with ⟨c, first, notZero⟩
  rcases List.head?_eq_some_iff.mp first with ⟨later, rfl⟩
  have digit := significant.decimal c List.mem_cons_self
  have notMinus : c ≠ '-' := by
    rintro rfl
    cases digit
  exact ⟨c, later, rfl, digit, by
    rw [NumberStage.first?, if_neg notMinus, if_neg notZero, if_pos digit]⟩

theorem Significant.numberStage?_eq (significant : Significant digits) :
    numberStage? digits = some .whole := by
  rcases significant.first? with ⟨c, later, rfl, digit, begins⟩
  rw [numberStage?, begins, Option.bind_some]
  exact stages_digits (fun _ => next?_whole) fun d member =>
    significant.decimal d (List.mem_cons_of_mem c member)

theorem isNumber_ofNat (number : Nat) : IsNumber (Numeral.ofNat number) := by
  rcases Nat.eq_zero_or_pos number with rfl | positive
  · exact ⟨.zero, by decide +kernel, rfl⟩
  · exact ⟨.whole, (significant_ofNat positive).numberStage?_eq, rfl⟩

theorem toUInt64?_ofNat (small : number < significandLimit) :
    toUInt64? (Numeral.ofNat number) = some (UInt64.ofNat number) := by
  have decimal : ∀ c ∈ Numeral.ofNat number, c.isDigit :=
    fun _ member => Reference.isDigit_of_mem_ofNat member
  have noSign : (Numeral.ofNat number).head? ≠ some '-' := by
    intro first
    have digit := decimal '-' (List.mem_of_mem_head? first)
    cases digit
  have dropped : (Numeral.ofNat number).dropWhile Char.isDigit = [] :=
    List.dropWhile_eq_nil_iff.mpr decimal
  simp only [toUInt64?, NumberParts.ofLiteral, noSign, decide_false, Bool.false_eq_true, if_false,
    List.takeWhile_eq_self_iff.mpr decimal, dropped, Numeral.value_ofNat, small, and_self,
    not_false_eq_true, decide_true, if_true]

/-! ## Decimals -/

theorem isNumber_positional (significant : Significant digits) (pointAfter : Int) :
    IsNumber (Decimal.positional digits pointAfter ['.', '0']) := by
  have zeros (count : Nat) : ∀ c ∈ List.replicate count '0', c.isDigit := by
    intro c member
    rw [List.eq_of_mem_replicate member]
    rfl
  unfold Decimal.positional
  split
  · refine ⟨.fraction, ?_, rfl⟩
    refine (numberStage?_append (rfl : numberStage? ['0', '.'] = some .point) _).trans ?_
    refine stages_first_digit (fun _ => next?_point) (fun _ => next?_fraction)
      (List.append_ne_nil_of_right_ne_nil _ significant.ne_nil) fun c member => ?_
    rcases List.mem_append.mp member with zero | digit
    · exact zeros _ c zero
    · exact significant.decimal c digit
  · next positive =>
    split
    · refine ⟨.fraction, ?_, rfl⟩
      rw [List.append_assoc, numberStage?_append significant.numberStage?_eq, List.foldlM_append,
        stages_digits (fun _ => next?_whole) (zeros _)]
      rfl
    · next inside =>
      have early : 0 < pointAfter.toNat := by omega
      have later : pointAfter.toNat < digits.length := by omega
      have whole : Significant (digits.take pointAfter.toNat) := by
        refine ⟨fun c member => significant.decimal c (List.mem_of_mem_take member), ?_⟩
        rw [List.head?_take, if_neg early.ne']
        exact significant.leading
      refine ⟨.fraction, ?_, rfl⟩
      rw [numberStage?_append whole.numberStage?_eq, List.foldlM_cons]
      refine stages_first_digit (fun _ => next?_point) (fun _ => next?_fraction) ?_
        fun c member => significant.decimal c (List.mem_of_mem_drop member)
      exact List.ne_nil_of_length_pos (by rw [List.length_drop]; omega)

theorem stages_exponent (marks : stage.next? 'e' = some .marker) (exponent : Int) :
    ('e' :: (if exponent < 0 then '-' else '+') :: Numeral.ofNat exponent.natAbs).foldlM
      NumberStage.next? stage = some .exponent := by
  have signed : NumberStage.marker.next? (if exponent < 0 then '-' else '+') =
      some .exponentSign := by
    split <;> rfl
  rw [List.foldlM_cons, marks]
  change (NumberStage.marker.next? _).bind _ = _
  rw [signed]
  exact stages_first_digit (fun _ => next?_exponentSign) (fun _ => next?_exponent)
    (Reference.ofNat_ne_nil _) fun _ member => Reference.isDigit_of_mem_ofNat member

theorem isNumber_scientific (significant : Significant digits) (exponent : Int) :
    IsNumber (Decimal.scientific digits exponent) := by
  rcases significant.first? with ⟨c, later, rfl, digit, begins⟩
  have first : numberStage? [c] = some .whole := by
    rw [numberStage?, begins]
    rfl
  refine ⟨.exponent, ?_, rfl⟩
  unfold Decimal.scientific
  rw [List.take_succ_cons, List.take_zero, List.append_assoc, numberStage?_append first]
  split
  · exact stages_exponent (rfl : NumberStage.whole.next? 'e' = _) exponent
  · next several =>
    have fraction : ('.' :: later).foldlM NumberStage.next? .whole = some .fraction := by
      rw [List.foldlM_cons]
      refine stages_first_digit (fun _ => next?_point) (fun _ => next?_fraction) ?_
        fun d member => significant.decimal d (List.mem_cons_of_mem c member)
      rintro rfl
      exact several le_rfl
    rw [List.drop_succ_cons, List.drop_zero, List.foldlM_append, fraction]
    exact stages_exponent (rfl : NumberStage.fraction.next? 'e' = _) exponent

/-- A literal that begins with a digit may have a minus sign before it. -/
theorem isNumber_minus (isNumber : IsNumber digits) (noSign : digits.head? ≠ some '-') :
    IsNumber ('-' :: digits) := by
  rcases isNumber with ⟨last, stages, complete⟩
  refine ⟨last, ?_, complete⟩
  cases digits with
  | nil => cases stages
  | cons c later =>
    have notMinus : c ≠ '-' := fun same => noSign (congrArg some same)
    have same : NumberStage.sign.next? c = NumberStage.first? c := by
      simp only [NumberStage.next?, NumberStage.first?, if_neg notMinus]
    rw [← stages, numberStage?, numberStage?, ← same]
    rfl

theorem head?_positional (significant : Significant digits) (pointAfter : Int)
    (integralEnd : List Char) :
    ∃ c ∈ (Decimal.positional digits pointAfter integralEnd).head?, c.isDigit := by
  rcases significant.first? with ⟨c, later, rfl, digit, _⟩
  unfold Decimal.positional
  split
  · exact ⟨'0', rfl, rfl⟩
  · split
    · exact ⟨c, rfl, digit⟩
    · refine ⟨c, ?_, digit⟩
      rw [List.head?_append, List.head?_take, if_neg (by omega)]
      rfl

theorem head?_scientific (significant : Significant digits) (exponent : Int) :
    ∃ c ∈ (Decimal.scientific digits exponent).head?, c.isDigit := by
  rcases significant.first? with ⟨c, later, rfl, digit, _⟩
  exact ⟨c, rfl, digit⟩

theorem isNumber_write {decimal : Decimal} (positive : 0 < decimal.significand) :
    IsNumber (decimal.write floatLayout) ∧
      ∃ c ∈ (decimal.write floatLayout).head?, c.isDigit := by
  have significant := significant_ofNat positive
  unfold Decimal.write
  simp only
  split
  · exact ⟨isNumber_positional significant _, head?_positional significant _ _⟩
  · exact ⟨isNumber_scientific significant _, head?_scientific significant _⟩

/-! ## Doubles -/

/-- The literal of a double is a number of JSON, and a double that is none has
the null. -/
theorem wellFormed_ofFloat (number : Float) : WellFormed (ofFloat number) := by
  unfold ofFloat
  split
  · next negative magnitude finite =>
    have bounded := (Binary64.ofMagnitude_of_finite finite).2.le
    have unsigned : ∃ literal, (if magnitude = 0 then ['0', '.', '0']
        else (Decimal.shortest floatLayout.tie magnitude).write floatLayout) = literal ∧
          IsNumber literal ∧ ∃ c ∈ literal.head?, c.isDigit := by
      refine ⟨_, rfl, ?_⟩
      split
      · exact ⟨⟨.fraction, rfl, rfl⟩, '0', rfl, rfl⟩
      · next nonzero =>
        exact isNumber_write (Decimal.shortest_pos _ bounded (Nat.pos_of_ne_zero nonzero))
    rcases unsigned with ⟨literal, same, isNumber, c, first, digit⟩
    have noSign : literal.head? ≠ some '-' := by
      intro minus
      rw [Option.mem_def.mp first] at minus
      cases minus
      cases digit
    simp only [same]
    cases negative with
    | true => exact .number (isNumber_minus isNumber noSign)
    | false => exact .number isNumber
  · exact .null

/-- Whether the reader gives a double back for its text.  It does not always:
it scales by one rounded power of ten, so the last place may come out wrong. -/
def ReadsBack (number : Float) : Prop :=
  float? (ofFloat number) = some number

instance (number : Float) : Decidable (ReadsBack number) :=
  inferInstanceAs (Decidable (_ = _))

example : ReadsBack 12.5 ∧ ¬ReadsBack 127.66666666666667 := by decide +kernel

theorem faithful_float {number : Float} (readsBack : ReadsBack number) :
    Faithful float? ofFloat number :=
  ⟨wellFormed_ofFloat number, readsBack⟩

end Json
end Worksheet
