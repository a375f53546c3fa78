import Worksheet.Cell.Basic
import Worksheet.Distinct
import Worksheet.Range

namespace Worksheet
namespace Formula

/-!
The cells that a formula reads, as far as its text shows.  The mentioned
identifiers are the reference tokens of the text.  The precedents are those
tokens too, but with every range between two tokens replaced by the cells
that it covers; a range too large to be listed stands for its corners.
-/

/-- An identifier as a token names it, without dollar signs. -/
def tokenId (token : List Char) : String :=
  String.ofList (Reference.dropDollars token)

/-- The identifiers that a formula mentions, in order of first appearance. -/
def mentionedIds (formula : String) : List String :=
  if isFormula formula then
    distinct ((Text.findAll Reference.tokenMeasure formula.toList).map tokenId)
  else []

/-- The identifiers that a range token stands for. -/
def rangeIds (token : List Char) : List String :=
  match Range.expand token with
  | .ok ids => ids
  | .error _ => (Text.split ':' token).map tokenId

/-- The identifiers of the cells that a formula reads: first those of its
ranges, then those of the references outside ranges. -/
def precedents (formula : String) : List String :=
  if isFormula formula then
    let text := formula.toList
    let ranges := Text.findAll Reference.rangeTokenMeasure text
    let outside := Text.mapFound Reference.rangeTokenMeasure (fun _ => [' ']) text
    distinct (ranges.flatMap rangeIds ++
      (Text.findAll Reference.tokenMeasure outside).map tokenId)
  else []

end Formula
end Worksheet
