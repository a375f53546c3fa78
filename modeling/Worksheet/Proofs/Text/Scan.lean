import Worksheet.Proofs.Text.Cutting
import Worksheet.Text.Scan

namespace Worksheet
namespace Text

/-!
What a search finds in a part of a text.  A character separates for a measure
if nothing that is sought reaches across it; the pieces on its two sides are
then those of the two sides alone, so a search of a text finds all that a
search of a delimited part finds.
-/

/-- Whether a measure never counts beyond the end of a text. -/
def Bounded (measure : List Char → Nat) : Prop :=
  ∀ text, measure text ≤ text.length

/-- Whether nothing that a measure counts reaches a character. -/
def Separates (measure : List Char → Nat) (c : Char) : Prop :=
  ∀ text rest, measure (text ++ c :: rest) = measure text

variable {measure : List Char → Nat} {text part : List Char} {c : Char}

theorem Bounded.nil (bounded : Bounded measure) : measure [] = 0 :=
  Nat.eq_zero_of_le_zero (bounded [])

theorem Separates.cons (separates : Separates measure c) (bounded : Bounded measure)
    (rest : List Char) : measure (c :: rest) = 0 :=
  (separates [] rest).trans bounded.nil

/-- A piece with the thing found in it, if it is one, changed. -/
def Piece.change (change : List Char → List Char) : Piece → Piece
  | found lexeme => found (change lexeme)
  | plain c => plain c

/-! ## Single pieces -/

theorem pieces_cons_of_zero {rest : List Char} (absent : measure (c :: rest) = 0) :
    pieces measure (c :: rest) = .plain c :: pieces measure rest := by
  rw [pieces, absent]

theorem pieces_append_of_measure {lexeme rest : List Char} (nonempty : lexeme ≠ [])
    (measured : measure (lexeme ++ rest) = lexeme.length) :
    pieces measure (lexeme ++ rest) = .found lexeme :: pieces measure rest := by
  cases lexeme with
  | nil => exact absurd rfl nonempty
  | cons c tail =>
    rw [List.cons_append, List.length_cons] at measured
    rw [List.cons_append, pieces, measured]
    simp only [List.take_left, List.drop_left]

/-- Where nothing begins there are only plain characters. -/
theorem pieces_append_of_zero {rest : List Char}
    (absent : ∀ d tail, d :: tail <:+ text → measure (d :: tail ++ rest) = 0) :
    pieces measure (text ++ rest) = text.map .plain ++ pieces measure rest := by
  induction text with
  | nil => rfl
  | cons d tail ih =>
    have plain : pieces measure (d :: (tail ++ rest)) = .plain d :: pieces measure (tail ++ rest) :=
      pieces_cons_of_zero (absent d tail List.suffix_rfl)
    rw [List.cons_append, plain, List.map_cons, List.cons_append]
    exact congrArg _ (ih fun e later ends => absent e later (ends.trans (List.suffix_cons d tail)))

theorem pieces_of_zero (absent : ∀ d tail, d :: tail <:+ text → measure (d :: tail) = 0) :
    pieces measure text = text.map .plain := by
  have whole : pieces measure (text ++ []) = text.map .plain ++ pieces measure [] :=
    pieces_append_of_zero fun d tail ends => by rw [List.append_nil]; exact absent d tail ends
  rwa [List.append_nil, pieces, List.append_nil] at whole

theorem mapFound_cons_of_zero {rest : List Char} (change : List Char → List Char)
    (absent : measure (c :: rest) = 0) :
    mapFound measure change (c :: rest) = c :: mapFound measure change rest := by
  rw [mapFound, pieces_cons_of_zero absent]
  rfl

theorem mapFound_append_of_measure {lexeme rest : List Char} (change : List Char → List Char)
    (nonempty : lexeme ≠ []) (measured : measure (lexeme ++ rest) = lexeme.length) :
    mapFound measure change (lexeme ++ rest) = change lexeme ++ mapFound measure change rest := by
  rw [mapFound, pieces_append_of_measure nonempty measured]
  rfl

theorem mapFound_of_zero (change : List Char → List Char)
    (absent : ∀ d tail, d :: tail <:+ text → measure (d :: tail) = 0) :
    mapFound measure change text = text := by
  rw [mapFound, pieces_of_zero absent, List.flatMap_map, List.flatMap_singleton']

/-! ## Searches on the sides of a separator -/

theorem pieces_append_cons (bounded : Bounded measure) (separates : Separates measure c)
    (text rest : List Char) :
    pieces measure (text ++ c :: rest) =
      pieces measure text ++ .plain c :: pieces measure rest := by
  fun_induction pieces measure text with
  | case1 => exact pieces_cons_of_zero (separates.cons bounded rest)
  | case2 d tail absent ih =>
    rw [List.cons_append, pieces_cons_of_zero, ih, List.cons_append]
    exact (separates (d :: tail) rest).trans absent
  | case3 d tail length measured ih =>
    have short : length ≤ tail.length := by
      have limit := bounded (d :: tail)
      rw [measured, List.length_cons] at limit
      exact Nat.le_of_succ_le_succ limit
    have same : measure (d :: (tail ++ c :: rest)) = length + 1 :=
      (separates (d :: tail) rest).trans measured
    rw [List.cons_append, pieces, same]
    simp only [List.take_append_of_le_length short, List.drop_append_of_le_length short, ih,
      List.cons_append]

theorem findAll_append_cons (bounded : Bounded measure) (separates : Separates measure c)
    (text rest : List Char) :
    findAll measure (text ++ c :: rest) = findAll measure text ++ findAll measure rest := by
  rw [findAll, pieces_append_cons bounded separates, List.filterMap_append]
  rfl

theorem mapFound_append_cons (bounded : Bounded measure) (separates : Separates measure c)
    (change : List Char → List Char) (text rest : List Char) :
    mapFound measure change (text ++ c :: rest) =
      mapFound measure change text ++ c :: mapFound measure change rest := by
  rw [mapFound, pieces_append_cons bounded separates, List.flatMap_append]
  rfl

/-! ## Searches of a part -/

variable {Separator : Char → Prop}

/-- What is found in a part is found in the text. -/
theorem mem_findAll_of_delimited (bounded : Bounded measure)
    (separates : ∀ c, Separator c → Separates measure c)
    (delimited : Delimited Separator part text) {lexeme : List Char}
    (found : lexeme ∈ findAll measure part) : lexeme ∈ findAll measure text := by
  refine delimited.extend (fun text => lexeme ∈ findAll measure text) found ?_ ?_
  · intro text c after separator listed
    rw [findAll_append_cons bounded (separates c separator)]
    exact List.mem_append_left _ listed
  · intro before c text separator listed
    rw [findAll_append_cons bounded (separates c separator)]
    exact List.mem_append_right _ listed

/-- Changing what is found changes a part by itself. -/
theorem delimited_mapFound (bounded : Bounded measure)
    (separates : ∀ c, Separator c → Separates measure c) (change : List Char → List Char)
    (delimited : Delimited Separator part text) :
    Delimited Separator (mapFound measure change part) (mapFound measure change text) := by
  refine delimited.extend (fun text => Delimited Separator (mapFound measure change part)
    (mapFound measure change text)) (.refl _ _) ?_ ?_
  · intro text c after separator inner
    rw [mapFound_append_cons bounded (separates c separator)]
    exact inner.trans (.append_cons separator)
  · intro before c text separator inner
    rw [mapFound_append_cons bounded (separates c separator)]
    exact inner.trans (.of_cons separator)

end Text
end Worksheet
