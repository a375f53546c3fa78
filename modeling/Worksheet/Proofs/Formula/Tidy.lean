import Mathlib.Data.List.Chain
import Worksheet.Proofs.Range
import Worksheet.Proofs.Reference.Identifier

namespace Worksheet
namespace Formula

/-!
Tidy texts.  An argument is tidy if it is spelled the way the search for
references expects: in upper case, with no blank beside a colon, and with
dollar signs only inside references.  Every dollar sign of a tidy text is then
followed by a letter or a digit, so blanks and dollar signs can be taken away
in either order.
-/

open Reference (IsToken isReferenceChar dropDollars)
open Text (Delimited isBlank trim)

/-- The longest runs of letters, digits and dollar signs in a text, with an
empty one wherever two other characters meet. -/
def runs (text : List Char) : List (List Char) :=
  text.splitOnP (!isReferenceChar ·)

/-- Whether a text has no lower-case letter, no blank beside a colon, and no
dollar sign outside a reference. -/
structure Tidy (text : List Char) : Prop where
  upper : ∀ c ∈ text, c.isLower = false
  colons : text.IsChain fun left right =>
    (left = ':' → isBlank right = false) ∧ (right = ':' → isBlank left = false)
  dollars : ∀ run ∈ runs text, '$' ∈ run → (Reference.ofChars? run).isSome

variable {text part before after : List Char} {c : Char}

/-! ## Runs -/

theorem runs_append_cons (ends : isReferenceChar c = false) (text rest : List Char) :
    runs (text ++ c :: rest) = runs text ++ runs rest :=
  List.splitOnP_append_cons text rest (by simp [ends])

theorem runs_subset_of_delimited (delimited : Delimited (isReferenceChar · = false) part text) :
    runs part ⊆ runs text := by
  refine delimited.extend (fun text => runs part ⊆ runs text) (fun _ member => member) ?_ ?_
  · intro text c after ends subset run member
    rw [runs_append_cons ends]
    exact List.mem_append_left _ (subset member)
  · intro before c text ends subset run member
    rw [runs_append_cons ends]
    exact List.mem_append_right _ (subset member)

theorem mem_runs_of_delimited (delimited : Delimited (isReferenceChar · = false) part text)
    (inside : ∀ c ∈ part, isReferenceChar c) : part ∈ runs text := by
  apply runs_subset_of_delimited delimited
  have whole : runs part = [part] :=
    List.splitOnP_eq_singleton fun c member => by rw [inside c member]; rfl
  rw [whole]
  exact List.mem_singleton_self part

/-! ## Parts of tidy texts -/

theorem Tidy.of_delimited (tidy : Tidy text)
    (delimited : Delimited (isReferenceChar · = false) part text) : Tidy part where
  upper := fun c member => tidy.upper c (delimited.subset member)
  colons := tidy.colons.infix delimited.isInfix
  dollars := fun run member => tidy.dollars run (runs_subset_of_delimited delimited member)

theorem Tidy.of_mem_split {separator : Char} (tidy : Tidy text)
    (ends : isReferenceChar separator = false) (member : part ∈ Text.split separator text) :
    Tidy part :=
  tidy.of_delimited ((Text.delimited_of_mem_split member).mono fun _ same => same ▸ ends)

theorem Tidy.isBlank_after_colon (tidy : Tidy (before ++ ':' :: after))
    (first : c ∈ after.head?) : isBlank c = false := by
  cases after with
  | nil => cases first
  | cons d after =>
    rw [← Option.some.inj first]
    have pair : [':', d] <:+: before ++ ':' :: d :: after := ⟨before, after, by simp⟩
    have chain := tidy.colons.infix pair
    exact (List.isChain_pair.mp chain).1 rfl

theorem Tidy.isBlank_before_colon (tidy : Tidy (before ++ ':' :: after))
    (last : c ∈ before.getLast?) : isBlank c = false := by
  rcases List.eq_nil_or_concat before with rfl | ⟨before, d, rfl⟩
  · cases last
  · rw [List.concat_eq_append] at tidy last
    rw [List.getLast?_concat] at last
    rw [← Option.some.inj last]
    have pair : [d, ':'] <:+: before ++ [d] ++ ':' :: after := ⟨before, after, by simp⟩
    have chain := tidy.colons.infix pair
    exact (List.isChain_pair.mp chain).2 rfl

/-! ## Dollar signs -/

theorem after_of_append_eq {first second : List Char} (absent : c ∉ first)
    (same : first ++ second = before ++ c :: after) :
    ∃ rest, second = rest ++ c :: after := by
  rcases List.append_eq_append_iff.mp same with ⟨rest, _, later⟩ | ⟨rest, whole, later⟩
  · exact ⟨rest, later⟩
  · cases rest with
    | nil => exact ⟨[], later.symm⟩
    | cons d rest =>
      rw [whole, (List.cons.inj later).1] at absent
      exact absurd (List.mem_append_right _ List.mem_cons_self) absent

theorem after_of_dollar_eq {isFixed : Bool} {rest : List Char}
    (same : Reference.dollar isFixed ++ rest = before ++ '$' :: after) :
    after = rest ∨ ∃ earlier, rest = earlier ++ '$' :: after := by
  cases isFixed with
  | false => exact .inr ⟨before, same⟩
  | true =>
    cases before with
    | nil => exact .inl (List.cons.inj same).2.symm
    | cons d before => exact .inr ⟨before, (List.cons.inj same).2⟩

/-- In a token a letter or a digit follows each dollar sign. -/
theorem after_dollar_of_isToken (isToken : IsToken (before ++ '$' :: after)) :
    ∃ d ∈ after.head?, d.isUpper ∨ d.isDigit := by
  rcases isToken with
    ⟨columnFixed, letters, rowFixed, digits, same, ⟨nonempty, upper⟩, filled, decimal⟩
  have noLetter : '$' ∉ letters := fun member =>
    Reference.ne_dollar_of_isUpper (upper _ member) rfl
  have noDigit : '$' ∉ digits := fun member =>
    Reference.ne_dollar_of_isDigit (decimal _ member) rfl
  rcases after_of_dollar_eq same.symm with rfl | ⟨earlier, same⟩
  · rcases List.exists_cons_of_ne_nil nonempty with ⟨letter, letters, rfl⟩
    exact ⟨letter, rfl, .inl (upper letter List.mem_cons_self)⟩
  rcases after_of_append_eq noLetter same with ⟨earlier, same⟩
  rcases after_of_dollar_eq same with rfl | ⟨earlier, same⟩
  · rcases List.exists_cons_of_ne_nil filled with ⟨digit, digits, rfl⟩
    exact ⟨digit, rfl, .inr (decimal digit List.mem_cons_self)⟩
  · rw [same] at noDigit
    exact absurd (List.mem_append_right _ List.mem_cons_self) noDigit

/-- A run with a dollar sign is a token. -/
theorem Tidy.isToken_of_mem_runs (tidy : Tidy text) {run : List Char}
    (delimited : Delimited (isReferenceChar · = false) run text)
    (inside : ∀ c ∈ run, isReferenceChar c) (dollar : '$' ∈ run) : IsToken run := by
  have accepted := tidy.dollars run (mem_runs_of_delimited delimited inside) dollar
  rcases Option.isSome_iff_exists.mp accepted with ⟨reference, accepted⟩
  have trimmed := Reference.trim_eq_self inside
  rw [← trimmed]
  refine Reference.isToken_of_ofChars? accepted fun c member => ?_
  rw [trimmed] at member
  exact tidy.upper c (delimited.subset member)

/-- In a tidy text a letter or a digit follows each dollar sign. -/
theorem Tidy.after_dollar (tidy : Tidy (before ++ '$' :: after)) :
    ∃ d ∈ after.head?, d.isUpper ∨ d.isDigit := by
  -- The run around the dollar sign ends on both sides where the first other character stands.
  have around : before ++ '$' :: after =
      before.rdropWhile isReferenceChar ++
        (before.rtakeWhile isReferenceChar ++ '$' :: after.takeWhile isReferenceChar) ++
        after.dropWhile isReferenceChar := by
    rw [← List.append_assoc, List.rdropWhile_append_rtakeWhile, List.append_assoc,
      List.cons_append, List.takeWhile_append_dropWhile]
  have delimited : Delimited (isReferenceChar · = false)
      (before.rtakeWhile isReferenceChar ++ '$' :: after.takeWhile isReferenceChar)
      (before ++ '$' :: after) := by
    refine ⟨_, _, around, fun c last => ?_, fun c first => ?_⟩
    · rcases List.mem_getLast?_eq_getLast last with ⟨nonempty, rfl⟩
      exact Bool.not_eq_true _ ▸ List.rdropWhile_last_not isReferenceChar _ nonempty
    · have stops := List.head?_dropWhile_not isReferenceChar after
      rw [first] at stops
      exact stops
  have inside : ∀ c ∈ before.rtakeWhile isReferenceChar ++
      '$' :: after.takeWhile isReferenceChar, isReferenceChar c := by
    intro c member
    rcases List.mem_append.mp member with earlier | later
    · exact List.mem_rtakeWhile_imp earlier
    · rcases List.mem_cons.mp later with rfl | later
      · rfl
      · exact List.mem_takeWhile_imp later
  have isToken := tidy.isToken_of_mem_runs delimited inside (by simp)
  rcases after_dollar_of_isToken isToken with ⟨d, first, kind⟩
  refine ⟨d, ?_, kind⟩
  have whole : after.takeWhile isReferenceChar ++ after.dropWhile isReferenceChar = after :=
    List.takeWhile_append_dropWhile
  rw [← whole, List.head?_append, first, Option.some_or]
  rfl

/-! ## Trimming and dollar signs -/

theorem isBlank_of_upper_or_digit (kind : c.isUpper ∨ c.isDigit) : isBlank c = false := by
  apply Reference.isBlank_of_isReferenceChar
  apply Reference.isReferenceChar_of_isTokenChar
  rcases kind with upper | digit
  · simp [Reference.isTokenChar, upper]
  · simp [Reference.isTokenChar, digit]

/-- After the dollar sign that a trimmed text begins with, the trimmed text goes
on with a letter or a digit. -/
theorem Tidy.after_dollar_trim (tidy : Tidy text) {earlier later : List Char}
    (shape : trim text = earlier ++ '$' :: later) :
    ∃ d ∈ later.head?, d.isUpper ∨ d.isDigit := by
  rcases Text.exists_trim text with ⟨before, after, whole, _, right⟩
  rw [shape] at whole
  have regrouped : text = (before ++ earlier) ++ '$' :: (later ++ after) := by
    rw [whole]
    simp only [List.append_assoc, List.cons_append]
  rw [regrouped] at tidy
  rcases tidy.after_dollar with ⟨d, first, kind⟩
  rw [List.head?_append] at first
  cases next : later.head? with
  | some e =>
    rw [next, Option.some_or] at first
    exact ⟨d, first, kind⟩
  | none =>
    rw [next, Option.none_or] at first
    have blank := right d (List.mem_of_mem_head? first)
    rw [isBlank_of_upper_or_digit kind] at blank
    cases blank

theorem ne_dollar_of_upper_or_digit (kind : c.isUpper ∨ c.isDigit) : c ≠ '$' := by
  rcases kind with upper | digit
  · exact Reference.ne_dollar_of_isUpper upper
  · exact Reference.ne_dollar_of_isDigit digit

theorem Tidy.exists_head? (tidy : Tidy text) (nonempty : trim text ≠ []) :
    ∃ c ∈ (dropDollars (trim text)).head?, isBlank c = false := by
  rcases List.exists_cons_of_ne_nil nonempty with ⟨d, later, shape⟩
  by_cases dollar : d = '$'
  · have begins : trim text = [] ++ '$' :: later := by rw [shape, dollar]; rfl
    rcases tidy.after_dollar_trim begins with ⟨e, next, kind⟩
    rcases List.head?_eq_some_iff.mp next with ⟨more, rfl⟩
    refine ⟨e, ?_, isBlank_of_upper_or_digit kind⟩
    have dropped : dropDollars (trim text) = dropDollars (e :: more) := by
      rw [begins]
      rfl
    rw [dropped, Range.dropDollars_cons_of_ne (ne_dollar_of_upper_or_digit kind)]
    rfl
  · have first : d ∈ (trim text).head? := by rw [shape]; rfl
    refine ⟨d, ?_, Text.isBlank_head?_trim first⟩
    rw [shape, Range.dropDollars_cons_of_ne dollar]
    rfl

theorem Tidy.exists_getLast? (tidy : Tidy text) (nonempty : trim text ≠ []) :
    ∃ c ∈ (dropDollars (trim text)).getLast?, isBlank c = false := by
  rcases List.eq_nil_or_concat (trim text) with shape | ⟨earlier, d, shape⟩
  · exact absurd shape nonempty
  rw [List.concat_eq_append] at shape
  have last : d ∈ (trim text).getLast? := by rw [shape]; exact List.getLast?_concat
  have dollar : d ≠ '$' := by
    rintro rfl
    rcases tidy.after_dollar_trim shape with ⟨_, next, _⟩
    cases next
  refine ⟨d, ?_, Text.isBlank_getLast?_trim last⟩
  rw [shape, Range.dropDollars_append, Range.dropDollars_cons_of_ne dollar]
  exact List.getLast?_concat

theorem Tidy.trim_eq_nil (tidy : Tidy text) (nothing : dropDollars (trim text) = []) :
    trim text = [] := by
  by_contra nonempty
  rcases tidy.exists_head? nonempty with ⟨c, first, _⟩
  rw [nothing] at first
  cases first

/-- Blanks and dollar signs of a tidy text can be taken away in either
order. -/
theorem Tidy.trim_dropDollars (tidy : Tidy text) :
    trim (dropDollars text) = dropDollars (trim text) := by
  have first : ∀ c ∈ (dropDollars (trim text)).head?, isBlank c = false := by
    intro c starts
    by_cases empty : trim text = []
    · rw [empty] at starts
      cases starts
    · rcases tidy.exists_head? empty with ⟨d, begins, filled⟩
      rwa [Option.mem_unique starts begins]
  have last : ∀ c ∈ (dropDollars (trim text)).getLast?, isBlank c = false := by
    intro c ends
    by_cases empty : trim text = []
    · rw [empty] at ends
      cases ends
    · rcases tidy.exists_getLast? empty with ⟨d, stops, filled⟩
      rwa [Option.mem_unique ends stops]
  rcases Text.exists_trim text with ⟨before, after, whole, left, right⟩
  have parts : dropDollars text =
      dropDollars before ++ dropDollars (trim text) ++ dropDollars after := by
    rw [← Range.dropDollars_append, ← Range.dropDollars_append, ← whole]
  rw [parts]
  exact Text.trim_eq_of_between (fun c member => left c (List.mem_of_mem_filter member))
    (fun c member => right c (List.mem_of_mem_filter member)) first last

/-- A tidy text that names an identifier without its dollar signs is a token
between blanks. -/
theorem Tidy.isToken_trim (tidy : Tidy text) (named : IsToken (dropDollars (trim text))) :
    IsToken (trim text) := by
  by_cases dollar : '$' ∈ trim text
  · refine tidy.isToken_of_mem_runs ((Text.delimited_trim text).mono fun c blank =>
      Reference.isReferenceChar_of_isBlank blank) (fun c member => ?_) dollar
    by_cases same : c = '$'
    · rw [same]
      rfl
    · exact Reference.isReferenceChar_of_isTokenChar
        (named.isTokenChar ((Range.mem_dropDollars same).mpr member))
  · rwa [Range.dropDollars_of_not_mem dollar] at named

end Formula
end Worksheet
