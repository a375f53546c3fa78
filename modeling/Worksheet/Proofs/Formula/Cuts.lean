import Mathlib.Algebra.Ring.Parity
import Worksheet.Proofs.Formula.Segments

namespace Worksheet
namespace Formula

/-!
Where literals begin and end, said without the scan that finds them.  A literal
begins at the first quote outside literals.  It is closed by the first quote of the
same kind that has an even number of backslashes right before it, and goes on to
the end of the text if there is none.  A text is cut in this way in exactly one
manner, and the stretches of the scan are those.
-/

variable {text inside rest : List Char} {c quote : Char} {cut : List Segment}

/-! ## Literals -/

/-- How many backslashes stand at the end of a text. -/
def backslashes (text : List Char) : Nat :=
  (text.rtakeWhile (· = '\\')).length

/-- Whether no quote in a text closes a literal: before each stands an odd number
of backslashes. -/
def StaysOpen (quote : Char) (inside : List Char) : Prop :=
  ∀ before after, inside = before ++ quote :: after → Odd (backslashes before)

/-- The rest of a literal behind its opening quote, and what follows it: either
the first quote with an even number of backslashes before it closes the literal,
or there is none and the literal goes on to the end. -/
inductive LiteralBefore (quote : Char) : List Char → List Char → Prop
  | closed {inside : List Char} (opened : StaysOpen quote inside)
      (closes : Even (backslashes inside)) (rest : List Char) :
      LiteralBefore quote (inside ++ [quote]) rest
  | unclosed {inside : List Char} (opened : StaysOpen quote inside) :
      LiteralBefore quote inside []

theorem backslashes_concat (inside : List Char) (c : Char) :
    backslashes (inside ++ [c]) = if c = '\\' then backslashes inside + 1 else 0 := by
  unfold backslashes
  rw [List.rtakeWhile_concat]
  by_cases backslash : c = '\\'
  · rw [if_pos (decide_eq_true backslash), if_pos backslash, List.length_append]
    rfl
  · rw [if_neg (mt of_decide_eq_true backslash), if_neg backslash]
    rfl

/-- The scan of a literal knows whether the number of backslashes is odd. -/
theorem odd_backslashes_concat (inside : List Char) (c : Char) :
    decide (Odd (backslashes (inside ++ [c]))) =
      (decide (c = '\\') && !decide (Odd (backslashes inside))) := by
  rw [backslashes_concat]
  by_cases backslash : c = '\\'
  · rw [if_pos backslash, decide_eq_true backslash, Bool.true_and, ← decide_not]
    exact decide_eq_decide.mpr Nat.odd_add_one
  · rw [if_neg backslash, decide_eq_false backslash, Bool.false_and]
    rfl

theorem staysOpen_nil (quote : Char) : StaysOpen quote [] := by
  intro before after whole
  cases before <;> cases whole

theorem staysOpen_concat_iff :
    StaysOpen quote (inside ++ [c]) ↔
      StaysOpen quote inside ∧ (c = quote → Odd (backslashes inside)) := by
  constructor
  · intro opened
    refine ⟨fun before after whole => opened before (after ++ [c]) ?_, fun same => ?_⟩
    · rw [whole, List.append_assoc, List.cons_append]
    · exact opened inside [] (by rw [same])
  · rintro ⟨opened, last⟩ before after whole
    rcases List.eq_nil_or_concat after with rfl | ⟨after, d, rfl⟩
    · rcases List.append_inj' whole rfl with ⟨rfl, same⟩
      exact last (List.singleton_inj.mp same)
    · rw [List.concat_eq_append, ← List.cons_append, ← List.append_assoc] at whole
      exact opened before after (List.append_inj' whole rfl).1

/-- The scan passes over what stays open and goes on behind it. -/
theorem literalRest_append_of_staysOpen (opened : StaysOpen quote inside) (rest : List Char) :
    literalRest quote false (inside ++ rest) =
      (inside ++ (literalRest quote (decide (Odd (backslashes inside))) rest).1,
        (literalRest quote (decide (Odd (backslashes inside))) rest).2) := by
  -- Induction from the end: the flag of the scan is the parity of what it has passed.
  induction inside using List.reverseRecOn generalizing rest with
  | nil => rfl
  | append_singleton inside c ih =>
    rcases staysOpen_concat_iff.mp opened with ⟨before, last⟩
    have goesOn : ¬(c = quote ∧ decide (Odd (backslashes inside)) = false) := by
      rintro ⟨same, even⟩
      exact of_decide_eq_false even (last same)
    rw [List.append_assoc, List.singleton_append, ih before, literalRest, if_neg goesOn,
      odd_backslashes_concat, List.append_assoc]
    rfl

/-- A text stays open behind an opening quote, or one of its quotes closes the
literal. -/
theorem staysOpen_or_closed (quote : Char) (text : List Char) :
    StaysOpen quote text ∨ ∃ inside rest, text = inside ++ quote :: rest ∧
      StaysOpen quote inside ∧ Even (backslashes inside) := by
  induction text using List.reverseRecOn with
  | nil => exact .inl (staysOpen_nil quote)
  | append_singleton text c ih =>
    rcases ih with opened | ⟨inside, rest, rfl, opened, closes⟩
    · by_cases last : c = quote → Odd (backslashes text)
      · exact .inl (staysOpen_concat_iff.mpr ⟨opened, last⟩)
      · rcases Classical.not_imp.mp last with ⟨rfl, even⟩
        exact .inr ⟨text, [], rfl, opened, Nat.not_odd_iff_even.mp even⟩
    · refine .inr ⟨inside, rest ++ [c], ?_, opened, closes⟩
      rw [List.append_assoc, List.cons_append]

theorem LiteralBefore.literalRest_eq (literal : LiteralBefore quote inside rest) :
    literalRest quote false (inside ++ rest) = (inside, rest) := by
  cases literal with
  | @closed inside opened closes =>
    have even : decide (Odd (backslashes inside)) = false :=
      decide_eq_false (Nat.not_odd_iff_even.mpr closes)
    rw [List.append_assoc, literalRest_append_of_staysOpen opened, even, List.singleton_append,
      literalRest, if_pos ⟨rfl, rfl⟩]
  | unclosed opened =>
    rw [literalRest_append_of_staysOpen opened, literalRest, List.append_nil]

theorem literalBefore_literalRest (quote : Char) (text : List Char) :
    LiteralBefore quote (literalRest quote false text).1 (literalRest quote false text).2 := by
  rcases staysOpen_or_closed quote text with opened | ⟨inside, rest, rfl, opened, closes⟩
  · have literal : LiteralBefore quote text [] := .unclosed opened
    have scanned := literal.literalRest_eq
    rw [List.append_nil] at scanned
    rwa [scanned]
  · have literal : LiteralBefore quote (inside ++ [quote]) rest := .closed opened closes rest
    have scanned := literal.literalRest_eq
    rw [List.append_assoc, List.singleton_append] at scanned
    rwa [scanned]

/-! ## Cuts at literals -/

/-- The texts cut at their literals: a stretch without quotes, then the literal
that begins at the first quote, then the cut of what follows it. -/
inductive Cut : List Char → List Segment → Prop
  | plain {text : List Char} (outside : ∀ c ∈ text, opensLiteral c = false) :
      Cut text [.plain text]
  | literal {text : List Char} {quote : Char} {inside rest : List Char} {cut : List Segment}
      (outside : ∀ c ∈ text, opensLiteral c = false) (opens : opensLiteral quote = true)
      (literal : LiteralBefore quote inside rest) (later : Cut rest cut) :
      Cut (text ++ quote :: (inside ++ rest)) (.plain text :: .literal (quote :: inside) :: cut)

theorem cut_segments (text : List Char) : Cut text (segments text) := by
  induction text using segments_induction with
  | plain text outside =>
    rw [segments_of_plain outside]
    exact .plain outside
  | literal text quote rest outside opens ih =>
    have isCut := Cut.literal outside opens (literalBefore_literalRest quote rest) ih
    rw [literalRest_append] at isCut
    rwa [segments_append_quote outside opens]

/-- A text is cut at its literals in one way. -/
theorem cut_iff : Cut text cut ↔ cut = segments text := by
  constructor
  · intro isCut
    induction isCut with
    | plain outside => rw [segments_of_plain outside]
    | literal outside opens literal _ ih =>
      rw [segments_append_quote outside opens, literal.literalRest_eq, ih]
  · rintro rfl
    exact cut_segments text

end Formula
end Worksheet
