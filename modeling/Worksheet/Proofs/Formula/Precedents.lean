import Worksheet.Formula.Precedents
import Worksheet.Proofs.Reference.Token

namespace Worksheet
namespace Formula

/-!
The precedents of a formula from the parts of its text.  A search of the
formula finds all that a search of a part of it finds, as long as the part
stands between characters that belong to no token and no range.
-/

open Reference (IsToken Outside tokenMeasure rangeTokenMeasure)
open Text (Delimited)

/-- The text with its ranges blotted out. -/
def outsideRanges (text : List Char) : List Char :=
  Text.mapFound rangeTokenMeasure (fun _ => [' ']) text

/-- The identifiers that a search of a text finds: those of its ranges and
those of the tokens outside ranges. -/
def scannedIds (text : List Char) : List String :=
  (Text.findAll rangeTokenMeasure text).flatMap rangeIds ++
    (Text.findAll tokenMeasure (outsideRanges text)).map tokenId

theorem mem_precedents {formula id : String} (starts : isFormula formula = true) :
    id ∈ precedents formula ↔ id ∈ scannedIds formula.toList := by
  rw [precedents, if_pos starts, mem_distinct]
  rfl

theorem isFormula_of_mem_precedents {formula id : String} (named : id ∈ precedents formula) :
    isFormula formula = true := by
  by_contra plain
  rw [precedents, if_neg plain] at named
  cases named

theorem mem_mentionedIds {formula id : String} (starts : isFormula formula = true) :
    id ∈ mentionedIds formula ↔ id ∈ (Text.findAll tokenMeasure formula.toList).map tokenId := by
  rw [mentionedIds, if_pos starts, mem_distinct]

theorem scannedIds_nil : scannedIds [] = [] := by
  simp [scannedIds, outsideRanges, Text.findAll, Text.mapFound, Text.pieces]

variable {text part token rest : List Char} {id : String}

theorem scannedIds_subset_of_delimited (delimited : Delimited Outside part text) :
    scannedIds part ⊆ scannedIds text := by
  have rangesSeparate : ∀ c, Outside c → Text.Separates rangeTokenMeasure c :=
    fun c outside => Reference.separates_rangeTokenMeasure outside.1 outside.2
  have tokensSeparate : ∀ c, Outside c → Text.Separates tokenMeasure c :=
    fun c outside => Reference.separates_tokenMeasure outside.1
  have inner : Delimited Outside (outsideRanges part) (outsideRanges text) :=
    Text.delimited_mapFound Reference.bounded_rangeTokenMeasure rangesSeparate _ delimited
  intro id member
  rcases List.mem_append.mp member with ranged | listed
  · rcases List.mem_flatMap.mp ranged with ⟨range, found, covered⟩
    exact List.mem_append_left _ (List.mem_flatMap.mpr ⟨range,
      Text.mem_findAll_of_delimited Reference.bounded_rangeTokenMeasure rangesSeparate delimited
        found, covered⟩)
  · rcases List.mem_map.mp listed with ⟨token, found, rfl⟩
    exact List.mem_append_right _ (List.mem_map_of_mem
      (Text.mem_findAll_of_delimited Reference.bounded_tokenMeasure tokensSeparate inner found))

/-! ## Single tokens -/

theorem outsideRanges_of_not_mem (absent : ':' ∉ text) : outsideRanges text = text := by
  have plain : Text.pieces rangeTokenMeasure text = text.map .plain :=
    Text.pieces_of_zero fun d tail ends =>
      Reference.rangeTokenMeasure_of_not_mem fun member => absent (ends.subset member)
  rw [outsideRanges, Text.mapFound, plain, List.flatMap_map]
  simp

theorem outsideRanges_append_colon (absent : ':' ∉ text) (none : tokenMeasure rest = 0) :
    outsideRanges (text ++ ':' :: rest) = text ++ ':' :: outsideRanges rest := by
  have plain : Text.pieces rangeTokenMeasure (text ++ ':' :: rest) =
      text.map .plain ++ Text.pieces rangeTokenMeasure (':' :: rest) :=
    Text.pieces_append_of_zero fun d tail ends =>
      Reference.rangeTokenMeasure_append_colon (fun member => absent (ends.subset member)) none
  have colon : Text.pieces rangeTokenMeasure (':' :: rest) =
      .plain ':' :: Text.pieces rangeTokenMeasure rest :=
    Text.pieces_cons_of_zero (Reference.rangeTokenMeasure_of_zero rfl)
  rw [outsideRanges, Text.mapFound, plain, colon, List.flatMap_append, List.flatMap_cons]
  simp [outsideRanges, Text.mapFound, List.flatMap_map]

theorem mem_findAll_of_isToken (isToken : IsToken token)
    (stops : ∀ c ∈ rest.head?, c.isDigit = false) :
    token ∈ Text.findAll tokenMeasure (token ++ rest) := by
  rw [Text.findAll, Text.pieces_append_of_measure isToken.ne_nil
    (Reference.tokenMeasure_append isToken stops)]
  exact List.mem_cons_self

theorem not_mem_colon_of_isToken (isToken : IsToken token) : ':' ∉ token := by
  intro member
  cases isToken.isTokenChar member

/-- A token by itself is found. -/
theorem tokenId_mem_scannedIds (isToken : IsToken token) : tokenId token ∈ scannedIds token := by
  refine List.mem_append_right _ (List.mem_map_of_mem ?_)
  rw [outsideRanges_of_not_mem (not_mem_colon_of_isToken isToken)]
  have found : token ∈ Text.findAll tokenMeasure (token ++ []) :=
    mem_findAll_of_isToken isToken fun c head => nomatch head
  rwa [List.append_nil] at found

/-- A token before a colon after which no token begins is found. -/
theorem tokenId_mem_scannedIds_colon (isToken : IsToken token) (none : tokenMeasure rest = 0) :
    tokenId token ∈ scannedIds (token ++ ':' :: rest) := by
  refine List.mem_append_right _ (List.mem_map_of_mem ?_)
  rw [outsideRanges_append_colon (not_mem_colon_of_isToken isToken) none]
  exact mem_findAll_of_isToken isToken fun c head => by rw [← Option.some.inj head]; rfl

/-! ## Ranges -/

/-- All that a range of two tokens stands for is found. -/
theorem rangeIds_subset_scannedIds {first second : List Char} (isFirst : IsToken first)
    (isSecond : IsToken second) (stops : ∀ c ∈ rest.head?, c.isDigit = false) :
    rangeIds (first ++ ':' :: second) ⊆ scannedIds (first ++ ':' :: (second ++ rest)) := by
  intro id member
  refine List.mem_append_left _ (List.mem_flatMap.mpr ⟨first ++ ':' :: second, ?_, member⟩)
  have measured := Reference.rangeTokenMeasure_append isFirst isSecond stops
  have whole : first ++ ':' :: (second ++ rest) = first ++ ':' :: second ++ rest := by simp
  rw [whole] at measured ⊢
  rw [Text.findAll, Text.pieces_append_of_measure (by simp) measured]
  exact List.mem_cons_self

end Formula
end Worksheet
