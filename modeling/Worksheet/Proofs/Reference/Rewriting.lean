import Worksheet.Proofs.Reference.Token

namespace Worksheet
namespace Reference

/-!
Changing the tokens of a text.  A change keeps the shape of tokens if letters
stay letters, digits stay digits and the dollar signs stay where they are; the
parts may grow or shrink.  No token is then made, lost, merged or cut: a search
of the changed text finds the changed tokens between the same characters.
-/

open Text (Piece pieces findAll mapFound split trim)

/-- Whether a text can be the letters of a token. -/
def IsLetters (text : List Char) : Prop :=
  text ≠ [] ∧ ∀ c ∈ text, c.isUpper

/-- Whether a text can be the digits of a token. -/
def IsDigits (text : List Char) : Prop :=
  text ≠ [] ∧ ∀ c ∈ text, c.isDigit

/-- Whether a change of tokens leaves their dollar signs alone and puts letters
in place of letters and digits in place of digits. -/
def KeepsShape (change : List Char → List Char) : Prop :=
  ∀ columnFixed letters rowFixed digits, IsLetters letters → IsDigits digits →
    ∃ newLetters newDigits, IsLetters newLetters ∧ IsDigits newDigits ∧
      change (dollar columnFixed ++ (letters ++ (dollar rowFixed ++ digits))) =
        dollar columnFixed ++ (newLetters ++ (dollar rowFixed ++ newDigits))

variable {text token rest : List Char} {c : Char} {change : List Char → List Char}

/-! ## Where a token begins -/

/-- Whether the letters of a token can be followed by a text: more letters
perhaps, then a dollar sign perhaps, then a digit. -/
def Continues (text : List Char) : Prop :=
  (takeDollar (text.dropWhile Char.isUpper)).2.takeWhile Char.isDigit ≠ []

theorem tokenMeasure_eq_zero_iff (text : List Char) :
    tokenMeasure text = 0 ↔
      (takeDollar text).2.takeWhile Char.isUpper = [] ∨ ¬Continues (takeDollar text).2 := by
  unfold Continues tokenMeasure
  rcases takeDollar text with ⟨columnFixed, afterMark⟩
  simp only [not_not]
  split
  · next none => exact iff_of_true rfl none
  · next some =>
    have filled := List.length_pos_iff.mpr (not_or.mp some).1
    exact iff_of_false (by omega) some

theorem takeWhile_eq_nil_iff {p : Char → Bool} :
    text.takeWhile p = [] ↔ text.head?.any p = false := by
  cases text with
  | nil => exact iff_of_true rfl rfl
  | cons d rest =>
    rw [List.takeWhile_cons, List.head?_cons, Option.any_some]
    cases p d <;> simp

theorem continues_cons (c : Char) (rest : List Char) :
    Continues (c :: rest) ↔
      if c.isUpper then Continues rest
      else if c = '$' then rest.head?.any Char.isDigit else c.isDigit := by
  unfold Continues
  by_cases upper : c.isUpper = true
  · rw [if_pos upper, List.dropWhile_cons_of_pos upper]
  rw [if_neg upper, List.dropWhile_cons_of_neg upper, ne_eq, takeWhile_eq_nil_iff,
    Bool.not_eq_false]
  by_cases dollar : c = '$'
  · rw [if_pos dollar, dollar]
    rfl
  · have first : (c :: rest).head? ≠ some '$' := fun same => dollar (Option.some.inj same)
    rw [if_neg dollar, takeDollar_of_head? first]
    rfl

theorem tokenMeasure_cons_eq_zero_iff (c : Char) (rest : List Char) :
    tokenMeasure (c :: rest) = 0 ↔
      if c = '$' then rest.head?.any Char.isUpper = false ∨ ¬Continues rest
      else c.isUpper = false ∨ ¬Continues rest := by
  rw [tokenMeasure_eq_zero_iff, takeWhile_eq_nil_iff]
  by_cases dollar : c = '$'
  · rw [if_pos dollar, dollar]
    rfl
  have first : (c :: rest).head? ≠ some '$' := fun same => dollar (Option.some.inj same)
  rw [if_neg dollar, takeDollar_of_head? first, continues_cons, List.head?_cons, Option.any_some]
  cases c.isUpper <;> simp

theorem continues_letters_append (upper : ∀ c ∈ text, c.isUpper) (rest : List Char) :
    Continues (text ++ rest) ↔ Continues rest := by
  unfold Continues
  rw [List.dropWhile_append_of_pos upper]

/-- The letters of a token without a first dollar sign are followed by its other
parts. -/
theorem continues_token {letters digits : List Char} {rowFixed : Bool}
    (isLetters : IsLetters letters) (isDigits : IsDigits digits) (rest : List Char) :
    Continues (letters ++ (dollar rowFixed ++ digits) ++ rest) := by
  rcases List.exists_cons_of_ne_nil isDigits.1 with ⟨digit, later, rfl⟩
  have decimal := isDigits.2 digit List.mem_cons_self
  rw [List.append_assoc, continues_letters_append isLetters.2]
  cases rowFixed with
  | true =>
    rw [dollar, if_pos rfl, List.singleton_append, List.cons_append, continues_cons]
    exact decimal
  | false =>
    rw [dollar, if_neg Bool.false_ne_true, List.nil_append, List.cons_append, continues_cons,
      if_neg (by rw [not_isUpper_of_isDigit decimal]; exact Bool.false_ne_true),
      if_neg (ne_dollar_of_isDigit decimal)]
    exact decimal

/-- No token goes on with another dollar sign. -/
theorem not_continues_dollar {letters : List Char} (isLetters : IsLetters letters)
    (rest : List Char) : ¬Continues ('$' :: (letters ++ rest)) := by
  rcases List.exists_cons_of_ne_nil isLetters.1 with ⟨letter, later, rfl⟩
  have upper := isLetters.2 letter List.mem_cons_self
  rw [continues_cons, if_neg (by decide), if_pos rfl]
  intro digit
  rw [not_isUpper_of_isDigit digit] at upper
  cases upper

/-! ## Texts piece by piece -/

theorem IsToken.append_digits (isToken : IsToken token) (decimal : ∀ c ∈ text, c.isDigit) :
    IsToken (token ++ text) := by
  rcases isToken with ⟨columnFixed, letters, rowFixed, digits, rfl, isLetters, filled, digital⟩
  refine ⟨columnFixed, letters, rowFixed, digits ++ text, by simp only [List.append_assoc],
    isLetters, List.append_ne_nil_of_left_ne_nil filled _, fun c member => ?_⟩
  rcases List.mem_append.mp member with early | late
  · exact digital c early
  · exact decimal c late

/-- Behind a token the measure counts the digits that follow and nothing more. -/
theorem IsToken.measure_append (isToken : IsToken token) (rest : List Char) :
    tokenMeasure (token ++ rest) = token.length + (rest.takeWhile Char.isDigit).length := by
  have longer : tokenMeasure (token ++ rest) =
      (token ++ rest.takeWhile Char.isDigit).length := by
    conv_lhs => rw [← List.takeWhile_append_dropWhile (p := Char.isDigit) (l := rest),
      ← List.append_assoc]
    refine tokenMeasure_append (isToken.append_digits fun c => List.mem_takeWhile_imp) ?_
    intro c first
    have stops := List.head?_dropWhile_not Char.isDigit rest
    rw [first] at stops
    exact stops
  rw [longer, List.length_append]

/-- No digit follows a token that is counted whole. -/
theorem IsToken.stops (isToken : IsToken token)
    (measured : tokenMeasure (token ++ rest) = token.length) :
    rest.head?.any Char.isDigit = false := by
  rw [isToken.measure_append rest] at measured
  exact takeWhile_eq_nil_iff.mp (List.length_eq_zero_iff.mp (by omega))

/-- A text that is not empty begins with a character at which no token begins, or
with a token that is counted whole. -/
theorem text_cases (text : List Char) :
    text = [] ∨ (∃ c rest, text = c :: rest ∧ tokenMeasure (c :: rest) = 0) ∨
      ∃ token rest, text = token ++ rest ∧ IsToken token ∧
        tokenMeasure (token ++ rest) = token.length := by
  cases text with
  | nil => exact .inl rfl
  | cons c rest =>
    right
    rcases tokenMeasure_cases (c :: rest) with none | ⟨token, later, whole, isToken, measured⟩
    · exact .inl ⟨c, rest, rfl, none⟩
    · rw [whole] at measured
      exact .inr ⟨token, later, whole, isToken, measured⟩

/-- What holds of the empty text, and stays when such a character or such a token
is put in front, holds of every text. -/
theorem text_induction {Holds : List Char → Prop} (nil : Holds [])
    (plain : ∀ c rest, tokenMeasure (c :: rest) = 0 → Holds rest → Holds (c :: rest))
    (token : ∀ token rest, IsToken token → tokenMeasure (token ++ rest) = token.length →
      Holds rest → Holds (token ++ rest)) (text : List Char) : Holds text := by
  rcases text_cases text with empty | ⟨c, rest, whole, none⟩ |
    ⟨lexeme, rest, whole, isToken, measured⟩
  · rw [empty]
    exact nil
  · rw [whole]
    exact plain c rest none (text_induction nil plain token rest)
  · rw [whole]
    exact token lexeme rest isToken measured (text_induction nil plain token rest)
termination_by text.length
decreasing_by
  · rw [whole]
    exact Nat.lt_succ_self rest.length
  · have filled := List.length_pos_iff.mpr isToken.ne_nil
    rw [whole, List.length_append]
    omega

/-! ## Changed texts -/

theorem KeepsShape.isToken (keeps : KeepsShape change) (isToken : IsToken token) :
    IsToken (change token) := by
  rcases isToken with ⟨columnFixed, letters, rowFixed, digits, rfl, isLetters, isDigits⟩
  rcases keeps columnFixed letters rowFixed digits isLetters isDigits with
    ⟨newLetters, newDigits, areLetters, areDigits, changed⟩
  exact ⟨columnFixed, newLetters, rowFixed, newDigits, changed, areLetters, areDigits⟩

/-- A text with its tokens changed. -/
abbrev changed (change : List Char → List Char) (text : List Char) : List Char :=
  mapFound tokenMeasure change text

theorem changed_token_append (isToken : IsToken token)
    (measured : tokenMeasure (token ++ rest) = token.length) :
    changed change (token ++ rest) = change token ++ changed change rest :=
  Text.mapFound_append_of_measure change isToken.ne_nil measured

@[simp] theorem changed_nil : changed change [] = [] := by
  simp [mapFound, pieces]

/-- What does not tell one upper-case letter from another does not tell the
beginning of a text from that of the changed one. -/
theorem KeepsShape.head?_changed (keeps : KeepsShape change) {p : Char → Bool}
    (same : ∀ c d : Char, c.isUpper → d.isUpper → p c = p d) (text : List Char) :
    (changed change text).head?.map p = text.head?.map p := by
  rcases text_cases text with rfl | ⟨c, rest, rfl, absent⟩ | ⟨token, rest, rfl, isToken, measured⟩
  · rw [changed_nil]
  · rw [changed, Text.mapFound_cons_of_zero change absent]
    rfl
  · rw [changed_token_append isToken measured]
    rcases isToken with ⟨columnFixed, letters, rowFixed, digits, rfl, isLetters, isDigits⟩
    rcases keeps columnFixed letters rowFixed digits isLetters isDigits with
      ⟨newLetters, newDigits, areLetters, _, shape⟩
    rw [shape]
    cases columnFixed with
    | true => rfl
    | false =>
      rcases List.exists_cons_of_ne_nil isLetters.1 with ⟨letter, later, rfl⟩
      rcases List.exists_cons_of_ne_nil areLetters.1 with ⟨newLetter, newLater, rfl⟩
      exact congrArg some (same newLetter letter (areLetters.2 newLetter List.mem_cons_self)
        (isLetters.2 letter List.mem_cons_self))

theorem KeepsShape.head?_changed_isDigit (keeps : KeepsShape change) (text : List Char) :
    (changed change text).head?.any Char.isDigit = text.head?.any Char.isDigit := by
  have notDigit {c : Char} (upper : c.isUpper) : c.isDigit = false := by
    cases digit : c.isDigit with
    | false => rfl
    | true => simp [not_isUpper_of_isDigit digit] at upper
  have head := keeps.head?_changed (p := Char.isDigit)
    (fun c d upper other => by rw [notDigit upper, notDigit other]) text
  simpa [Option.any_map] using congrArg (Option.any fun found => found) head

theorem KeepsShape.head?_changed_isUpper (keeps : KeepsShape change) (text : List Char) :
    (changed change text).head?.any Char.isUpper = text.head?.any Char.isUpper := by
  have head := keeps.head?_changed (p := Char.isUpper)
    (fun c d upper other => by rw [upper, other]) text
  simpa [Option.any_map] using congrArg (Option.any fun found => found) head

theorem KeepsShape.continues_changed (keeps : KeepsShape change) (text : List Char) :
    Continues (changed change text) ↔ Continues text := by
  induction text using text_induction with
  | nil => rw [changed_nil]
  | plain c rest absent ih =>
    rw [changed, Text.mapFound_cons_of_zero change absent, continues_cons, continues_cons, ih,
      keeps.head?_changed_isDigit]
  | token token rest isToken measured ih =>
    rw [changed_token_append isToken measured]
    rcases isToken with ⟨columnFixed, letters, rowFixed, digits, rfl, isLetters, isDigits⟩
    rcases keeps columnFixed letters rowFixed digits isLetters isDigits with
      ⟨newLetters, newDigits, areLetters, areDigits, shape⟩
    rw [shape]
    cases columnFixed with
    | true =>
      have before {letters : List Char} (isLetters : IsLetters letters) (more rest : List Char) :
          ¬Continues (dollar true ++ (letters ++ more) ++ rest) := by
        rw [dollar, if_pos rfl, List.singleton_append, List.cons_append, List.append_assoc]
        exact not_continues_dollar isLetters _
      exact iff_of_false (before areLetters _ _) (before isLetters _ _)
    | false =>
      exact iff_of_true (continues_token areLetters areDigits _)
        (continues_token isLetters isDigits _)

/-- The pieces of the changed text are the pieces of the text with the tokens
changed. -/
theorem KeepsShape.pieces_changed (keeps : KeepsShape change) (text : List Char) :
    pieces tokenMeasure (changed change text) =
      (pieces tokenMeasure text).map (Piece.change change) := by
  induction text using text_induction with
  | nil =>
    rw [changed_nil]
    simp [pieces]
  | plain c rest absent ih =>
    have still : tokenMeasure (c :: changed change rest) = 0 := by
      rw [tokenMeasure_cons_eq_zero_iff] at absent ⊢
      rwa [keeps.continues_changed, keeps.head?_changed_isUpper]
    rw [changed, Text.mapFound_cons_of_zero change absent, Text.pieces_cons_of_zero still, ih,
      Text.pieces_cons_of_zero absent, List.map_cons]
    rfl
  | token token rest isToken measured ih =>
    have isChanged := keeps.isToken isToken
    have counted : tokenMeasure (change token ++ changed change rest) = (change token).length := by
      refine tokenMeasure_append isChanged fun c first => ?_
      have stops := isToken.stops measured
      rw [← keeps.head?_changed_isDigit, first] at stops
      exact stops
    rw [changed_token_append isToken measured,
      Text.pieces_append_of_measure isChanged.ne_nil counted, ih,
      Text.pieces_append_of_measure isToken.ne_nil measured, List.map_cons]
    rfl

theorem isToken_of_mem_findAll (found : token ∈ findAll tokenMeasure text) : IsToken token := by
  induction text using text_induction with
  | nil => simp [findAll, pieces] at found
  | plain c rest absent ih =>
    rw [findAll, Text.pieces_cons_of_zero absent] at found
    exact ih found
  | token first rest isToken measured ih =>
    rw [findAll, Text.pieces_append_of_measure isToken.ne_nil measured] at found
    rcases List.mem_cons.mp found with rfl | later
    · exact isToken
    · exact ih later

theorem pieces_of_isToken (isToken : IsToken token) :
    pieces tokenMeasure token = [.found token] := by
  have measured : tokenMeasure (token ++ []) = token.length :=
    tokenMeasure_append isToken fun _ first => nomatch first
  have whole := Text.pieces_append_of_measure isToken.ne_nil measured
  rwa [List.append_nil, pieces] at whole

theorem changed_of_isToken (isToken : IsToken token) : changed change token = change token := by
  rw [changed, mapFound, pieces_of_isToken isToken, List.flatMap_singleton]

theorem mem_findAll_self (isToken : IsToken token) : token ∈ findAll tokenMeasure token := by
  rw [findAll, pieces_of_isToken isToken]
  exact List.mem_singleton_self token

theorem KeepsShape.isToken_changed_iff (keeps : KeepsShape change) :
    IsToken (changed change text) ↔ IsToken text := by
  constructor
  · intro isChanged
    have single := pieces_of_isToken isChanged
    rw [keeps.pieces_changed] at single
    rcases List.map_eq_singleton_iff.mp single with ⟨piece, alone, found⟩
    have whole := Text.flatMap_chars_pieces tokenMeasure text
    rw [alone, List.flatMap_singleton] at whole
    cases piece with
    | plain c => cases found
    | found token =>
      have found : token ∈ findAll tokenMeasure text := by
        rw [findAll, alone]
        exact List.mem_singleton_self token
      rw [← whole]
      exact isToken_of_mem_findAll found
  · intro isToken
    rw [changed_of_isToken isToken]
    exact keeps.isToken isToken

/-- A character other than a letter or a digit stands in the changed text only
if it stands in the text. -/
theorem KeepsShape.mem_changed_iff (keeps : KeepsShape change) (notUpper : c.isUpper = false)
    (notDigit : c.isDigit = false) : c ∈ changed change text ↔ c ∈ text := by
  have token {columnFixed rowFixed : Bool} {letters digits : List Char}
      (isLetters : IsLetters letters) (isDigits : IsDigits digits) :
      c ∈ dollar columnFixed ++ (letters ++ (dollar rowFixed ++ digits)) ↔
        c ∈ dollar columnFixed ∨ c ∈ dollar rowFixed := by
    have noLetter : c ∉ letters := fun member => by simp [isLetters.2 c member] at notUpper
    have noDigit : c ∉ digits := fun member => by simp [isDigits.2 c member] at notDigit
    simp only [List.mem_append, noLetter, noDigit, false_or, or_false]
  induction text using text_induction with
  | nil => rw [changed_nil]
  | plain d rest absent ih =>
    rw [changed, Text.mapFound_cons_of_zero change absent, List.mem_cons, List.mem_cons]
    exact or_congr_right ih
  | token lexeme rest isToken measured ih =>
    rw [changed_token_append isToken measured, List.mem_append, List.mem_append]
    refine or_congr ?_ ih
    rcases isToken with ⟨columnFixed, letters, rowFixed, digits, rfl, isLetters, isDigits⟩
    rcases keeps columnFixed letters rowFixed digits isLetters isDigits with
      ⟨newLetters, newDigits, areLetters, areDigits, shape⟩
    rw [shape, token areLetters areDigits, token isLetters isDigits]

theorem KeepsShape.changed_eq_nil_iff (keeps : KeepsShape change) :
    changed change text = [] ↔ text = [] := by
  have head := keeps.head?_changed (p := fun _ => true) (fun _ _ _ _ => rfl) text
  rw [← List.head?_eq_none_iff, ← Option.map_eq_none_iff (f := fun _ => true), head,
    Option.map_eq_none_iff, List.head?_eq_none_iff]

theorem changed_congr {other : List Char → List Char}
    (same : ∀ token ∈ findAll tokenMeasure text, change token = other token) :
    changed change text = changed other text := by
  induction text using text_induction with
  | nil => rw [changed_nil, changed_nil]
  | plain c rest absent ih =>
    rw [findAll, Text.pieces_cons_of_zero absent] at same
    rw [changed, changed, Text.mapFound_cons_of_zero change absent,
      Text.mapFound_cons_of_zero other absent]
    exact congrArg (c :: ·) (ih same)
  | token token rest isToken measured ih =>
    rw [findAll, Text.pieces_append_of_measure isToken.ne_nil measured] at same
    rw [changed_token_append isToken measured, changed_token_append isToken measured,
      same token List.mem_cons_self]
    exact congrArg (other token ++ ·)
      (ih fun later found => same later (List.mem_cons_of_mem _ found))

theorem changed_same (text : List Char) : changed (fun token => token) text = text :=
  Text.flatMap_chars_pieces tokenMeasure text

theorem changed_eq_self (same : ∀ token ∈ findAll tokenMeasure text, change token = token) :
    changed change text = text :=
  (changed_congr same).trans (changed_same text)

/-- The tokens of a changed text are changed where they now stand. -/
theorem KeepsShape.changed_changed (keeps : KeepsShape change) (next : List Char → List Char)
    (text : List Char) : changed next (changed change text) = changed (next ∘ change) text := by
  rw [changed, mapFound, keeps.pieces_changed, List.flatMap_map, changed, mapFound]
  congr 1
  funext piece
  cases piece <;> rfl

theorem changed_of_no_digit (noDigit : ∀ c ∈ text, c.isDigit = false) :
    changed change text = text := by
  refine Text.mapFound_of_zero change fun d tail ends => ?_
  rcases tokenMeasure_cases (d :: tail) with none | ⟨token, rest, whole, isToken, _⟩
  · exact none
  · rcases isToken with ⟨columnFixed, letters, rowFixed, digits, rfl, _, isDigits⟩
    rcases List.exists_cons_of_ne_nil isDigits.1 with ⟨digit, later, rfl⟩
    have member : digit ∈ d :: tail := by
      rw [whole]
      simp
    have absent := noDigit digit (ends.subset member)
    rw [isDigits.2 digit List.mem_cons_self] at absent
    cases absent

/-! ## Parts of changed texts -/

theorem changed_append_cons (outside : isTokenChar c = false) (text rest : List Char) :
    changed change (text ++ c :: rest) = changed change text ++ c :: changed change rest :=
  Text.mapFound_append_cons bounded_tokenMeasure (separates_tokenMeasure outside) change text rest

theorem changed_cons (outside : isTokenChar c = false) (rest : List Char) :
    changed change (c :: rest) = c :: changed change rest := by
  have whole : changed change ([] ++ c :: rest) = changed change [] ++ c :: changed change rest :=
    changed_append_cons outside [] rest
  rwa [changed_nil] at whole

theorem changed_append_of_outside_left {before : List Char}
    (outside : ∀ c ∈ before, isTokenChar c = false) (text : List Char) :
    changed change (before ++ text) = before ++ changed change text := by
  induction before with
  | nil => rfl
  | cons c before ih =>
    rw [List.cons_append, changed_cons (outside c List.mem_cons_self),
      ih fun d member => outside d (List.mem_cons_of_mem c member), List.cons_append]

theorem changed_append_of_outside_right {after : List Char}
    (outside : ∀ c ∈ after, isTokenChar c = false) (text : List Char) :
    changed change (text ++ after) = changed change text ++ after := by
  cases after with
  | nil => rw [List.append_nil, List.append_nil]
  | cons c after =>
    have rest : changed change (after ++ []) = after ++ changed change [] :=
      changed_append_of_outside_left (fun d member => outside d (List.mem_cons_of_mem c member)) []
    rw [List.append_nil, changed_nil, List.append_nil] at rest
    rw [changed_append_cons (outside c List.mem_cons_self), rest]

theorem KeepsShape.split_changed (keeps : KeepsShape change) {separator : Char}
    (outside : isTokenChar separator = false) (text : List Char) :
    split separator (changed change text) = (split separator text).map (changed change) := by
  have outsideParts := outside
  simp only [isTokenChar, Bool.or_eq_false_iff] at outsideParts
  have keepsAbsent {piece : List Char} (absent : separator ∉ piece) :
      separator ∉ changed change piece :=
    mt (keeps.mem_changed_iff outsideParts.1.1 outsideParts.1.2).mp absent
  induction shape : split separator text generalizing text with
  | nil => exact absurd shape (Text.split_ne_nil separator text)
  | cons first pieces ih =>
    rcases Text.split_cases separator text with ⟨absent, whole⟩ | ⟨piece, rest, rfl, absent, cut⟩
    · rw [whole] at shape
      cases shape
      exact Text.split_of_not_mem (keepsAbsent absent)
    · rw [cut] at shape
      cases shape
      rw [changed_append_cons outside, Text.split_append_cons (keepsAbsent absent), ih rest rfl,
        List.map_cons]

/-- What does not tell one digit from another does not tell the end of a text
from that of the changed one. -/
theorem KeepsShape.getLast?_changed (keeps : KeepsShape change) {p : Char → Bool}
    (same : ∀ c d : Char, c.isDigit → d.isDigit → p c = p d) (text : List Char) :
    (changed change text).getLast?.map p = text.getLast?.map p := by
  have ends {columnFixed rowFixed : Bool} {letters digits : List Char} (isDigits : IsDigits digits)
      (rest : List Char) :
      (dollar columnFixed ++ (letters ++ (dollar rowFixed ++ digits)) ++ rest).getLast? =
        rest.getLast?.or (some (digits.getLast isDigits.1)) := by
    simp [List.getLast?_append, List.getLast?_eq_some_getLast isDigits.1]
  induction text using text_induction with
  | nil => rw [changed_nil]
  | plain c rest absent ih =>
    rw [changed, Text.mapFound_cons_of_zero change absent, List.getLast?_cons, List.getLast?_cons,
      Option.map_some, Option.map_some, ← Option.getD_map p, ih, Option.getD_map]
  | token lexeme rest isToken measured ih =>
    rw [changed_token_append isToken measured]
    rcases isToken with ⟨columnFixed, letters, rowFixed, digits, rfl, isLetters, isDigits⟩
    rcases keeps columnFixed letters rowFixed digits isLetters isDigits with
      ⟨newLetters, newDigits, areLetters, areDigits, shape⟩
    rw [shape, ends areDigits, ends isDigits, Option.map_or, Option.map_or, ih,
      Option.map_some, Option.map_some]
    rw [same _ _ (areDigits.2 _ (List.getLast_mem _)) (isDigits.2 _ (List.getLast_mem _))]

/-- Blanks around a text can be taken away before or after the change. -/
theorem KeepsShape.trim_changed (keeps : KeepsShape change) (text : List Char) :
    trim (changed change text) = changed change (trim text) := by
  have upper {c : Char} (letter : c.isUpper) : Text.isBlank c = false :=
    isBlank_of_isReferenceChar (isReferenceChar_of_isTokenChar (by simp [isTokenChar, letter]))
  have decimal {c : Char} (digit : c.isDigit) : Text.isBlank c = false :=
    isBlank_of_isReferenceChar (isReferenceChar_of_isTokenChar (by simp [isTokenChar, digit]))
  have head := keeps.head?_changed (p := Text.isBlank)
    (fun c d letter other => by rw [upper letter, upper other]) (trim text)
  have last := keeps.getLast?_changed (p := Text.isBlank)
    (fun c d digit other => by rw [decimal digit, decimal other]) (trim text)
  rcases Text.exists_trim text with ⟨before, after, whole, left, right⟩
  conv_lhs => rw [whole]
  rw [changed_append_of_outside_right fun c member => isTokenChar_of_isBlank (right c member),
    changed_append_of_outside_left fun c member => isTokenChar_of_isBlank (left c member)]
  refine Text.trim_eq_of_between left right (fun c first => ?_) (fun c final => ?_)
  · rw [first, Option.map_some] at head
    rcases Option.map_eq_some_iff.mp head.symm with ⟨d, begins, same⟩
    rw [← same]
    exact Text.isBlank_head?_trim begins
  · rw [final, Option.map_some] at last
    rcases Option.map_eq_some_iff.mp last.symm with ⟨d, ends, same⟩
    rw [← same]
    exact Text.isBlank_getLast?_trim ends

end Reference
end Worksheet
