import Worksheet.Proofs.Reference.Character
import Worksheet.Proofs.Text.Scan

namespace Worksheet
namespace Reference

/-!
Reference tokens and ranges of two of them.  The measures of the search count
exactly such a token or range at the beginning of a text, and nothing of either
kind reaches a character that has no place in it.
-/

open Text (Bounded Separates takeWhile_append_cons dropWhile_append_cons)

/-- Whether a text is a reference token: upper-case letters and digits, each
possibly after a dollar sign. -/
def IsToken (text : List Char) : Prop :=
  ∃ columnFixed letters rowFixed digits,
    text = dollar columnFixed ++ (letters ++ (dollar rowFixed ++ digits)) ∧
      (letters ≠ [] ∧ ∀ c ∈ letters, c.isUpper) ∧ digits ≠ [] ∧ ∀ c ∈ digits, c.isDigit

variable {text token rest : List Char} {c : Char}

/-! ## Dollar signs -/

theorem takeDollar_of_head? (first : text.head? ≠ some '$') : takeDollar text = (false, text) := by
  unfold takeDollar
  split
  · exact absurd rfl first
  · rfl

theorem takeDollar_dollar_append (isFixed : Bool) (first : rest.head? ≠ some '$') :
    takeDollar (dollar isFixed ++ rest) = (isFixed, rest) := by
  cases isFixed with
  | true => rfl
  | false => exact takeDollar_of_head? first

theorem dollar_append_takeDollar (text : List Char) :
    dollar (takeDollar text).1 ++ (takeDollar text).2 = text := by
  unfold takeDollar
  split <;> rfl

theorem takeDollar_append_cons (different : c ≠ '$') (text rest : List Char) :
    takeDollar (text ++ c :: rest) =
      ((takeDollar text).1, (takeDollar text).2 ++ c :: rest) := by
  cases text with
  | nil => exact takeDollar_of_head? fun same => different (Option.some.inj same)
  | cons d tail =>
    by_cases same : d = '$'
    · rw [same]
      rfl
    · have first (rest : List Char) : (d :: rest).head? ≠ some '$' :=
        fun head => same (Option.some.inj head)
      rw [List.cons_append, takeDollar_of_head? (first _), takeDollar_of_head? (first _)]
      rfl

theorem length_dollar (isFixed : Bool) : (dollar isFixed).length = isFixed.toNat := by
  cases isFixed <;> rfl

/-! ## The measure of tokens -/

theorem IsToken.ne_nil (isToken : IsToken token) : token ≠ [] := by
  rcases isToken with ⟨columnFixed, letters, rowFixed, digits, rfl, ⟨nonempty, _⟩, _⟩
  intro empty
  exact nonempty (List.append_eq_nil_iff.mp (List.append_eq_nil_iff.mp empty).2).1

theorem IsToken.isTokenChar (isToken : IsToken token) (member : c ∈ token) :
    isTokenChar c = true := by
  rcases isToken with ⟨columnFixed, letters, rowFixed, digits, rfl, ⟨_, upper⟩, _, decimal⟩
  have sign {isFixed : Bool} (member : c ∈ dollar isFixed) : Reference.isTokenChar c = true := by
    cases isFixed with
    | true => rw [List.mem_singleton.mp member]; rfl
    | false => cases member
  simp only [List.mem_append] at member
  rcases member with mark | letter | mark | digit
  · exact sign mark
  · simp [Reference.isTokenChar, upper c letter]
  · exact sign mark
  · simp [Reference.isTokenChar, decimal c digit]

theorem trim_eq_self (inside : ∀ c ∈ text, isReferenceChar c) : Text.trim text = text := by
  have whole : Text.trim ([] ++ text ++ []) = text :=
    Text.trim_eq_of_between (fun _ member => nomatch member) (fun _ member => nomatch member)
      (fun c first => isBlank_of_isReferenceChar (inside c (List.mem_of_mem_head? first)))
      (fun c last => isBlank_of_isReferenceChar (inside c (List.mem_of_getLast? last)))
  rwa [List.nil_append, List.append_nil] at whole

/-- A text begins with what its measure counts. -/
theorem tokenMeasure_cases (text : List Char) :
    tokenMeasure text = 0 ∨
      ∃ token rest, text = token ++ rest ∧ IsToken token ∧ tokenMeasure text = token.length := by
  unfold tokenMeasure
  have whole := dollar_append_takeDollar text
  rcases first : takeDollar text with ⟨columnFixed, afterMark⟩
  have rest := dollar_append_takeDollar (afterMark.dropWhile Char.isUpper)
  rcases second : takeDollar (afterMark.dropWhile Char.isUpper) with ⟨rowFixed, afterSecondMark⟩
  rw [first] at whole
  rw [second] at rest
  simp only at whole rest ⊢
  rw [second]
  simp only
  split
  · exact .inl rfl
  · next parts =>
    rcases not_or.mp parts with ⟨letters, digits⟩
    refine .inr ⟨dollar columnFixed ++ (afterMark.takeWhile Char.isUpper ++
      (dollar rowFixed ++ afterSecondMark.takeWhile Char.isDigit)),
      afterSecondMark.dropWhile Char.isDigit, ?_, ?_, ?_⟩
    · rw [← whole, List.append_assoc, List.append_assoc, List.append_assoc,
        List.takeWhile_append_dropWhile, rest, List.takeWhile_append_dropWhile]
    · exact ⟨columnFixed, _, rowFixed, _, rfl,
        ⟨letters, fun c member => List.mem_takeWhile_imp member⟩, digits,
        fun c member => List.mem_takeWhile_imp member⟩
    · simp only [List.length_append, length_dollar, Nat.add_assoc]

theorem bounded_tokenMeasure : Bounded tokenMeasure := by
  intro text
  rcases tokenMeasure_cases text with none | ⟨token, rest, rfl, _, measured⟩
  · rw [none]
    exact Nat.zero_le _
  · rw [measured, List.length_append]
    exact Nat.le_add_right _ _

theorem separates_tokenMeasure (outside : isTokenChar c = false) : Separates tokenMeasure c := by
  intro text rest
  simp only [isTokenChar, Bool.or_eq_false_iff, decide_eq_false_iff_not] at outside
  rcases outside with ⟨⟨upper, digit⟩, dollar⟩
  unfold tokenMeasure
  rw [takeDollar_append_cons dollar]
  rcases takeDollar text with ⟨columnFixed, afterMark⟩
  simp only [takeWhile_append_cons upper, dropWhile_append_cons upper,
    takeDollar_append_cons dollar]
  rcases takeDollar (afterMark.dropWhile Char.isUpper) with ⟨rowFixed, afterSecondMark⟩
  simp only [takeWhile_append_cons digit]

theorem drop_tokenMeasure_append_cons (outside : isTokenChar c = false) (text rest : List Char) :
    (text ++ c :: rest).drop (tokenMeasure (text ++ c :: rest)) =
      text.drop (tokenMeasure text) ++ c :: rest := by
  rw [separates_tokenMeasure outside, List.drop_append_of_le_length (bounded_tokenMeasure text)]

/-- A token is counted whole unless more digits follow. -/
theorem tokenMeasure_append (isToken : IsToken token)
    (stops : ∀ c ∈ rest.head?, c.isDigit = false) :
    tokenMeasure (token ++ rest) = token.length := by
  rcases isToken with
    ⟨columnFixed, letters, rowFixed, digits, rfl, ⟨nonempty, upper⟩, filled, decimal⟩
  have begins : (letters ++ (dollar rowFixed ++ (digits ++ rest))).head? ≠ some '$' := by
    rcases List.exists_cons_of_ne_nil nonempty with ⟨letter, letters, rfl⟩
    exact fun head => ne_dollar_of_isUpper (upper letter List.mem_cons_self) (Option.some.inj head)
  have continues : (digits ++ rest).head? ≠ some '$' := by
    rcases List.exists_cons_of_ne_nil filled with ⟨digit, digits, rfl⟩
    exact fun head => ne_dollar_of_isDigit (decimal digit List.mem_cons_self) (Option.some.inj head)
  have lettersEnd : ∀ c ∈ (dollar rowFixed ++ (digits ++ rest)).head?, c.isUpper = false := by
    intro c head
    cases rowFixed with
    | true =>
      rw [← Option.some.inj head]
      rfl
    | false =>
      rcases List.exists_cons_of_ne_nil filled with ⟨digit, digits, rfl⟩
      rw [← Option.some.inj head]
      exact not_isUpper_of_isDigit (decimal digit List.mem_cons_self)
  have parts : letters ≠ [] ∧ digits ≠ [] := ⟨nonempty, filled⟩
  unfold tokenMeasure
  simp only [List.append_assoc, takeDollar_dollar_append columnFixed begins,
    List.takeWhile_append_of_pos upper, List.dropWhile_append_of_pos upper,
    Text.takeWhile_eq_nil lettersEnd, Text.dropWhile_eq_self lettersEnd,
    takeDollar_dollar_append rowFixed continues, List.takeWhile_append_of_pos decimal,
    Text.takeWhile_eq_nil stops, List.append_nil, nonempty, filled, or_self, if_false,
    List.length_append, length_dollar, Nat.add_assoc]

/-! ## The measure of ranges -/

theorem rangeTokenMeasure_of_zero (none : tokenMeasure text = 0) : rangeTokenMeasure text = 0 := by
  rw [rangeTokenMeasure, none]

theorem rangeTokenMeasure_of_ne (different : ∀ tail, text.drop (tokenMeasure text) ≠ ':' :: tail) :
    rangeTokenMeasure text = 0 := by
  cases measured : tokenMeasure text with
  | zero => exact rangeTokenMeasure_of_zero measured
  | succ first =>
    rw [measured] at different
    rw [rangeTokenMeasure, measured]
    simp only

theorem rangeTokenMeasure_of_colon {tail : List Char} (some : tokenMeasure text ≠ 0)
    (after : text.drop (tokenMeasure text) = ':' :: tail) :
    rangeTokenMeasure text =
      if tokenMeasure tail = 0 then 0 else tokenMeasure text + 1 + tokenMeasure tail := by
  cases measured : tokenMeasure text with
  | zero => exact absurd measured some
  | succ first =>
    rw [measured] at after
    rw [rangeTokenMeasure, measured]
    simp only [after]
    cases tokenMeasure tail <;> rfl

/-- A range is counted only where a token ends before a colon. -/
theorem rangeTokenMeasure_cases (text : List Char) :
    (∀ tail, text.drop (tokenMeasure text) ≠ ':' :: tail) ∨ tokenMeasure text = 0 ∨
      tokenMeasure text ≠ 0 ∧ ∃ tail, text.drop (tokenMeasure text) = ':' :: tail := by
  by_cases colon : ∃ tail, text.drop (tokenMeasure text) = ':' :: tail
  · by_cases none : tokenMeasure text = 0
    · exact .inr (.inl none)
    · exact .inr (.inr ⟨none, colon⟩)
  · exact .inl fun tail shape => colon ⟨tail, shape⟩

theorem bounded_rangeTokenMeasure : Bounded rangeTokenMeasure := by
  intro text
  rcases rangeTokenMeasure_cases text with different | none | ⟨some, tail, after⟩
  · rw [rangeTokenMeasure_of_ne different]
    exact Nat.zero_le _
  · rw [rangeTokenMeasure_of_zero none]
    exact Nat.zero_le _
  · rw [rangeTokenMeasure_of_colon some after]
    have inside := bounded_tokenMeasure text
    have beyond := bounded_tokenMeasure tail
    have whole := congrArg List.length after
    rw [List.length_drop, List.length_cons] at whole
    split <;> omega

theorem separates_rangeTokenMeasure (outside : isTokenChar c = false) (noColon : c ≠ ':') :
    Separates rangeTokenMeasure c := by
  intro text rest
  have same := separates_tokenMeasure outside text rest
  have drops := drop_tokenMeasure_append_cons outside text rest
  rcases rangeTokenMeasure_cases text with different | none | ⟨some, tail, after⟩
  · rw [rangeTokenMeasure_of_ne different]
    refine rangeTokenMeasure_of_ne fun tail shape => ?_
    rw [drops] at shape
    cases left : text.drop (tokenMeasure text) with
    | nil =>
      rw [left] at shape
      exact noColon (List.cons.inj shape).1
    | cons d later =>
      rw [left] at shape
      exact different later (left.trans (congrArg (· :: later) (List.cons.inj shape).1))
  · rw [rangeTokenMeasure_of_zero none, rangeTokenMeasure_of_zero (same.trans none)]
  · rw [after, List.cons_append] at drops
    rw [rangeTokenMeasure_of_colon some after, rangeTokenMeasure_of_colon (same ▸ some) drops,
      same, separates_tokenMeasure outside tail rest]

/-- Two tokens with a colon between them are counted whole unless more digits
follow. -/
theorem rangeTokenMeasure_append {first second : List Char} (isFirst : IsToken first)
    (isSecond : IsToken second) (stops : ∀ c ∈ rest.head?, c.isDigit = false) :
    rangeTokenMeasure (first ++ ':' :: (second ++ rest)) = (first ++ ':' :: second).length := by
  have measured : tokenMeasure (first ++ ':' :: (second ++ rest)) = first.length :=
    tokenMeasure_append isFirst fun c head => by rw [← Option.some.inj head]; rfl
  have later := tokenMeasure_append isSecond stops
  have some : tokenMeasure (first ++ ':' :: (second ++ rest)) ≠ 0 := by
    rw [measured]
    exact (List.length_pos_iff.mpr isFirst.ne_nil).ne'
  have after : (first ++ ':' :: (second ++ rest)).drop
      (tokenMeasure (first ++ ':' :: (second ++ rest))) = ':' :: (second ++ rest) := by
    rw [measured, List.drop_left]
  rw [rangeTokenMeasure_of_colon some after, measured, later,
    if_neg (List.length_pos_iff.mpr isSecond.ne_nil).ne', List.length_append, List.length_cons]
  omega

theorem rangeTokenMeasure_of_not_mem (absent : ':' ∉ text) : rangeTokenMeasure text = 0 := by
  refine rangeTokenMeasure_of_ne fun tail shape => absent ?_
  have member : ':' ∈ text.drop (tokenMeasure text) := shape ▸ List.mem_cons_self
  exact List.mem_of_mem_drop member

/-- No range reaches a colon after which no token begins. -/
theorem rangeTokenMeasure_append_colon (absent : ':' ∉ text) (none : tokenMeasure rest = 0) :
    rangeTokenMeasure (text ++ ':' :: rest) = 0 := by
  have same := separates_tokenMeasure (c := ':') rfl text rest
  have drops := drop_tokenMeasure_append_cons (c := ':') rfl text rest
  by_cases zero : tokenMeasure text = 0
  · exact rangeTokenMeasure_of_zero (same.trans zero)
  cases left : text.drop (tokenMeasure text) with
  | nil =>
    rw [left, List.nil_append] at drops
    rw [rangeTokenMeasure_of_colon (same ▸ zero) drops, if_pos none]
  | cons d tail =>
    refine rangeTokenMeasure_of_ne fun later shape => absent ?_
    rw [drops, left] at shape
    have member : ':' ∈ text.drop (tokenMeasure text) := by
      rw [left, (List.cons.inj shape).1]
      exact List.mem_cons_self
    exact List.mem_of_mem_drop member

end Reference
end Worksheet
