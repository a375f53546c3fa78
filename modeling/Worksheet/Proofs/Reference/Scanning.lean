import Worksheet.Proofs.Reference.Rewriting

namespace Worksheet
namespace Reference

/-!
What a search for tokens finds, said of the tokens alone.  From left to right,
a token is found where one begins, and of the tokens that begin there the longest
is taken; the search goes on behind it.  A text is cut in this way in exactly one
manner, and the pieces of the search are those.
-/

open Text (Piece pieces)

variable {text token rest : List Char} {parts : List Piece}

/-- The texts cut at their tokens: each token is the longest that begins where it
stands, and none begins at a character between them. -/
inductive Scanned : List Char → List Piece → Prop
  | nil : Scanned [] []
  | plain {c : Char} {rest : List Char} {parts : List Piece}
      (absent : ∀ token, IsToken token → ¬token <+: c :: rest)
      (later : Scanned rest parts) : Scanned (c :: rest) (.plain c :: parts)
  | found {token rest : List Char} {parts : List Piece} (isToken : IsToken token)
      (longest : ∀ other, IsToken other → other <+: token ++ rest → other.length ≤ token.length)
      (later : Scanned rest parts) : Scanned (token ++ rest) (.found token :: parts)

/-! ## What is counted -/

theorem IsToken.length_le_measure (isToken : IsToken token) (begins : token <+: text) :
    token.length ≤ tokenMeasure text := by
  rcases begins with ⟨rest, rfl⟩
  rw [isToken.measure_append rest]
  exact Nat.le_add_right _ _

theorem measure_eq_zero_iff_absent :
    tokenMeasure text = 0 ↔ ∀ token, IsToken token → ¬token <+: text := by
  constructor
  · intro none token isToken begins
    have counted := isToken.length_le_measure begins
    have filled := List.length_pos_iff.mpr isToken.ne_nil
    omega
  · intro absent
    rcases tokenMeasure_cases text with none | ⟨token, rest, whole, isToken, _⟩
    · exact none
    · exact absurd ⟨rest, whole.symm⟩ (absent token isToken)

theorem IsToken.measure_eq_length_iff (isToken : IsToken token) :
    tokenMeasure (token ++ rest) = token.length ↔
      ∀ other, IsToken other → other <+: token ++ rest → other.length ≤ token.length := by
  have atLeast := isToken.length_le_measure (List.prefix_append token rest)
  constructor
  · intro counted other isOther begins
    rw [← counted]
    exact isOther.length_le_measure begins
  · intro longest
    rcases tokenMeasure_cases (token ++ rest) with none | ⟨other, after, whole, isOther, counted⟩
    · have filled := List.length_pos_iff.mpr isToken.ne_nil
      omega
    · have atMost := longest other isOther ⟨after, whole.symm⟩
      omega

/-! ## The one cut -/

theorem scanned_pieces (text : List Char) : Scanned text (pieces tokenMeasure text) := by
  induction text using text_induction with
  | nil =>
    rw [pieces]
    exact .nil
  | plain c rest none ih =>
    rw [Text.pieces_cons_of_zero none]
    exact .plain (measure_eq_zero_iff_absent.mp none) ih
  | token token rest isToken counted ih =>
    rw [Text.pieces_append_of_measure isToken.ne_nil counted]
    exact .found isToken (isToken.measure_eq_length_iff.mp counted) ih

theorem Scanned.eq_pieces (scanned : Scanned text parts) : parts = pieces tokenMeasure text := by
  induction scanned with
  | nil => rw [pieces]
  | plain absent _ ih =>
    rw [Text.pieces_cons_of_zero (measure_eq_zero_iff_absent.mpr absent), ih]
  | found isToken longest _ ih =>
    rw [Text.pieces_append_of_measure isToken.ne_nil (isToken.measure_eq_length_iff.mpr longest),
      ih]

/-- The search cuts a text at its tokens, and nothing else does. -/
theorem scanned_iff : Scanned text parts ↔ parts = pieces tokenMeasure text := by
  constructor
  · exact Scanned.eq_pieces
  · rintro rfl
    exact scanned_pieces text

end Reference
end Worksheet
