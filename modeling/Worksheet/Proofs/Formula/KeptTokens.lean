import Mathlib.Data.List.Forall2
import Worksheet.Formula.Precedents
import Worksheet.Proofs.Formula.Cuts
import Worksheet.Proofs.Formula.Shift
import Worksheet.Proofs.Reference.Scanning

namespace Worksheet

/-!
What a shift keeps.  A text is cut at its literals, and between them at its
tokens.  The shifted text is cut at the same literals, each as it was, and between
them at the shifted tokens, with the same characters around them.  A token that is
off the sheet stays, and so does a part of a reference that would leave it.
-/

/-! ## Refused tokens -/

namespace Reference

variable {letters digits token : List Char} {columnFixed rowFixed : Bool}

/-- Whether a token has the row zero, or a row or a column beyond the last. -/
def IsOffSheet (token : List Char) : Prop :=
  ∃ columnFixed letters rowFixed digits,
    token = dollar columnFixed ++ (letters ++ (dollar rowFixed ++ digits)) ∧
      IsLetters letters ∧ IsDigits digits ∧
        (Numeral.value digits = 0 ∨ lastIndex < Numeral.value digits ∨
          lastIndex < Column.value letters)

theorem ofChars?_token_eq_none_iff (isLetters : IsLetters letters) (isDigits : IsDigits digits) :
    ofChars? (dollar columnFixed ++ (letters ++ (dollar rowFixed ++ digits))) = none ↔
      Numeral.value digits = 0 ∨ lastIndex < Numeral.value digits ∨
        lastIndex < Column.value letters := by
  have alpha : letters.all Char.isAlpha = true :=
    List.all_eq_true.mpr (isAlpha_of_mem_letters isLetters)
  rw [ofChars?_token isLetters isDigits, Column.ofLetters?_eq_ite, Row.ofDigits?]
  by_cases column : Column.value letters ≤ lastIndex
  · rw [if_pos ⟨isLetters.1, alpha, column⟩]
    by_cases row : 0 < Numeral.value digits ∧ Numeral.value digits ≤ lastIndex
    · simp only [if_pos row]
      exact iff_of_false (Option.some_ne_none _) (by omega)
    · simp only [if_neg row]
      exact iff_of_true rfl (by omega)
  · rw [if_neg fun parts => column parts.2.2]
    exact iff_of_true rfl (by omega)

/-- A token is refused exactly if it is off the sheet. -/
theorem ofChars?_eq_none_iff (isToken : IsToken token) :
    ofChars? token = none ↔ IsOffSheet token := by
  constructor
  · intro refused
    rcases isToken with ⟨columnFixed, letters, rowFixed, digits, rfl, isLetters, isDigits⟩
    exact ⟨columnFixed, letters, rowFixed, digits, rfl, isLetters, isDigits,
      (ofChars?_token_eq_none_iff isLetters isDigits).mp refused⟩
  · rintro ⟨columnFixed, letters, rowFixed, digits, rfl, isLetters, isDigits, offSheet⟩
    exact (ofChars?_token_eq_none_iff isLetters isDigits).mpr offSheet

end Reference

namespace Formula

open Reference (IsOffSheet IsToken Scanned changed keepsShape_shiftToken tokenMeasure)
open Text (Piece findAll pieces)

variable {text : List Char} {columns rows : Int}

/-! ## Shifted pieces -/

/-- A piece of a text and the piece that a shift puts in its place.  A reference
is moved and written again; a refused token and a character outside tokens stay. -/
inductive ShiftedPiece (columns rows : Int) : Piece → Piece → Prop
  | plain (c : Char) : ShiftedPiece columns rows (.plain c) (.plain c)
  | moved {token : List Char} {reference : Reference}
      (accepted : Reference.ofChars? token = some reference) :
      ShiftedPiece columns rows (.found token) (.found (reference.shift columns rows).chars)
  | kept {token : List Char} (offSheet : IsOffSheet token) :
      ShiftedPiece columns rows (.found token) (.found token)

/-- A stretch of a text and the stretch that a shift puts in its place. -/
inductive ShiftedSegment (columns rows : Int) : Segment → Segment → Prop
  | literal (text : List Char) : ShiftedSegment columns rows (.literal text) (.literal text)
  | plain {before after : List Char} {parts newParts : List Piece}
      (scanned : Scanned before parts) (rescanned : Scanned after newParts)
      (shifted : List.Forall₂ (ShiftedPiece columns rows) parts newParts) :
      ShiftedSegment columns rows (.plain before) (.plain after)

theorem shiftedPiece_found {token : List Char} (isToken : IsToken token) :
    ShiftedPiece columns rows (.found token) (.found (shiftToken columns rows token)) := by
  unfold shiftToken
  cases accepted : Reference.ofChars? token with
  | some reference => exact .moved accepted
  | none => exact .kept ((Reference.ofChars?_eq_none_iff isToken).mp accepted)

theorem shiftedPiece_of_mem {piece : Piece} (member : piece ∈ pieces tokenMeasure text) :
    ShiftedPiece columns rows piece (piece.change (shiftToken columns rows)) := by
  cases piece with
  | plain c => exact .plain c
  | found token =>
    have found : token ∈ findAll tokenMeasure text := List.mem_filterMap.mpr ⟨_, member, rfl⟩
    exact shiftedPiece_found (Reference.isToken_of_mem_findAll found)

/-- The tokens of a shifted text are the shifted tokens, between the same
characters. -/
theorem forall₂_shiftedPiece (columns rows : Int) (text : List Char) :
    List.Forall₂ (ShiftedPiece columns rows) (pieces tokenMeasure text)
      (pieces tokenMeasure (changed (shiftToken columns rows) text)) := by
  rw [(keepsShape_shiftToken columns rows).pieces_changed, List.forall₂_map_right_iff,
    List.forall₂_same]
  exact fun piece member => shiftedPiece_of_mem member

theorem shiftedSegment_mapTokens (columns rows : Int) (segment : Segment) :
    ShiftedSegment columns rows segment (segment.mapTokens (shiftToken columns rows)) := by
  cases segment with
  | literal text => exact .literal text
  | plain text =>
    exact .plain (Reference.scanned_pieces text) (Reference.scanned_pieces _)
      (forall₂_shiftedPiece columns rows text)

theorem forall₂_shiftedSegment (columns rows : Int) (text : List Char) :
    List.Forall₂ (ShiftedSegment columns rows) (segments text)
      (segments (shiftChars columns rows text)) := by
  rw [shiftChars_eq_changedOutside, segments_changedOutside (keepsShape_shiftToken columns rows),
    List.forall₂_map_right_iff, List.forall₂_same]
  exact fun segment _ => shiftedSegment_mapTokens columns rows segment

/-! ## Shifted formulas -/

/-- Behind an equals sign the tokens of a text are those of the text. -/
theorem mentionedIds_append (text : String) :
    mentionedIds ("=" ++ text) = ((findAll tokenMeasure text.toList).map tokenId).eraseDups := by
  have whole : ("=" ++ text).toList = '=' :: text.toList := String.toList_append
  have starts : isFormula ("=" ++ text) = true := by
    rw [isFormula, whole]
    rfl
  have outside : Text.Separates tokenMeasure '=' := Reference.separates_tokenMeasure rfl
  have absent := outside.cons Reference.bounded_tokenMeasure text.toList
  rw [mentionedIds, if_pos starts, distinct_eq_eraseDups, whole, findAll,
    Text.pieces_cons_of_zero absent]
  rfl

/-- A shift keeps the literals of a text and its tokens as tokens.  Text and
shifted text have one cut each, with the same literals; between them the same
characters stand around the shifted tokens.  Behind an equals sign, a shifted text
without quotes mentions the shifted tokens. -/
theorem shift_keeps_tokens (formula : String) (moved : ¬(columns = 0 ∧ rows = 0)) :
    ∃ before after,
      (∀ cut, Cut formula.toList cut ↔ cut = before) ∧
        (∀ cut, Cut (shift formula columns rows).toList cut ↔ cut = after) ∧
          List.Forall₂ (ShiftedSegment columns rows) before after ∧
            ((∀ c ∈ formula.toList, opensLiteral c = false) →
              ∃ parts newParts,
                (∀ scan, Scanned formula.toList scan ↔ scan = parts) ∧
                  List.Forall₂ (ShiftedPiece columns rows) parts newParts ∧
                    mentionedIds ("=" ++ shift formula columns rows) =
                      ((newParts.filterMap Piece.lexeme?).map tokenId).eraseDups) := by
  have shifted : (shift formula columns rows).toList = shiftChars columns rows formula.toList := by
    rw [shift_eq moved, String.toList_ofList]
  refine ⟨segments formula.toList, segments (shift formula columns rows).toList,
    fun cut => cut_iff, fun cut => cut_iff, ?_, fun outside => ?_⟩
  · rw [shifted]
    exact forall₂_shiftedSegment columns rows formula.toList
  · rw [shiftChars_eq_changedOutside, changedOutside_of_plain outside] at shifted
    refine ⟨_, _, fun scan => Reference.scanned_iff,
      forall₂_shiftedPiece columns rows formula.toList, ?_⟩
    rw [mentionedIds_append, shifted]
    rfl

theorem shift_keeps_tokens_beside_literals :
    let formula := "Z9&AB$C9\"A1\\\"B2\"é$ZZ1B0'C3\\'"
    let before : List Segment := [.plain "Z9&AB$C9".toList, .literal "\"A1\\\"B2\"".toList,
      .plain "é$ZZ1B0".toList, .literal "'C3\\'".toList, .plain []]
    let after : List Segment := [.plain "AA8&AB$C8".toList, .literal "\"A1\\\"B2\"".toList,
      .plain "é$ZZ1B0".toList, .literal "'C3\\'".toList, .plain []]
    let unquoted := "Z9$$A1A1B0"
    ¬((1 : Int) = 0 ∧ (-1 : Int) = 0) ∧
      Cut formula.toList before ∧ Cut (shift formula 1 (-1)).toList after ∧
        List.Forall₂ (ShiftedSegment 1 (-1)) before after ∧
          ∃ parts newParts, (∀ scan, Scanned unquoted.toList scan ↔ scan = parts) ∧
            List.Forall₂ (ShiftedPiece 1 (-1)) parts newParts ∧
              mentionedIds "=AA8$$A1B1B0" =
                ((newParts.filterMap Piece.lexeme?).map tokenId).eraseDups := by
  intro formula before after unquoted
  have moved : ¬((1 : Int) = 0 ∧ (-1 : Int) = 0) := by decide
  have cutBefore : Cut formula.toList before := cut_iff.mpr (by decide +kernel)
  have cutAfter : Cut (shift formula 1 (-1)).toList after := cut_iff.mpr (by decide +kernel)
  have outside : ∀ c ∈ unquoted.toList, opensLiteral c = false := by
    have all : unquoted.toList.all (!opensLiteral ·) = true := by decide +kernel
    intro c member
    simpa using List.all_eq_true.mp all c member
  have shifted : "=" ++ shift unquoted 1 (-1) = "=AA8$$A1B1B0" := by decide +kernel
  rcases shift_keeps_tokens formula moved with ⟨_, _, onlyBefore, onlyAfter, segments, _⟩
  rcases shift_keeps_tokens unquoted moved with ⟨_, _, _, _, _, mentions⟩
  refine ⟨moved, cutBefore, cutAfter, ?_, ?_⟩
  · rwa [(onlyBefore before).mp cutBefore, (onlyAfter after).mp cutAfter]
  · rw [← shifted]
    exact mentions outside

end Formula
end Worksheet
