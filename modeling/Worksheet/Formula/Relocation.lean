import Worksheet.Cell.Basic
import Worksheet.Reference

namespace Worksheet
namespace Formula

/-!
Moving formulas.  A formula that is copied to another cell has the free parts
of its references shifted by the way it was moved.  Literals in quotes are
left alone; inside one a backslash takes away the meaning of the character
after it.
-/

/-- A stretch of a formula: outside literals, or one literal with its
quotes. -/
inductive Segment where
  | plain (text : List Char)
  | literal (text : List Char)
deriving DecidableEq, Repr

/-- The rest of a literal up to its closing quote, or to the end if it has
none, and what follows it. -/
def literalRest (quote : Char) (escaped : Bool) : List Char → List Char × List Char
  | [] => ([], [])
  | c :: rest =>
    if c = quote ∧ escaped = false then ([c], rest)
    else
      let (inside, after) := literalRest quote (c = '\\' && !escaped) rest
      (c :: inside, after)

theorem literalRest_append (quote : Char) (escaped : Bool) (text : List Char) :
    (literalRest quote escaped text).1 ++ (literalRest quote escaped text).2 = text := by
  fun_induction literalRest quote escaped text with
  | case1 => rfl
  | case2 => rfl
  | case3 escaped c rest _ inside after same ih => simpa [same] using ih

theorem length_literalRest_le (quote : Char) (escaped : Bool) (text : List Char) :
    (literalRest quote escaped text).2.length ≤ text.length := by
  have whole := congrArg List.length (literalRest_append quote escaped text)
  simp only [List.length_append] at whole
  omega

/-- Whether a character opens a literal. -/
def opensLiteral (c : Char) : Bool :=
  c = '"' || c = '\''

/-- A text cut into stretches outside literals and literals. -/
def segments (text : List Char) : List Segment :=
  let outside := text.takeWhile (!opensLiteral ·)
  match _rest : text.dropWhile (!opensLiteral ·) with
  | [] => [.plain outside]
  | quote :: afterQuote =>
    let literal := literalRest quote false afterQuote
    .plain outside :: .literal (quote :: literal.1) :: segments literal.2
termination_by text.length
decreasing_by
  have shorter := length_literalRest_le quote false afterQuote
  have dropped := (List.dropWhile_suffix (l := text) (!opensLiteral ·)).length_le
  simp only [_rest, List.length_cons] at dropped
  omega

/-- A reference token shifted by columns and rows.  A token that is no
reference stays. -/
def shiftToken (columns rows : Int) (token : List Char) : List Char :=
  match Reference.ofChars? token with
  | some reference => (reference.shift columns rows).chars
  | none => token

/-- A stretch with its references shifted. -/
def Segment.shift (columns rows : Int) : Segment → List Char
  | plain text => Text.mapFound Reference.tokenMeasure (shiftToken columns rows) text
  | literal text => text

/-- A formula with the references outside literals shifted by columns and
rows. -/
def shift (formula : String) (columns rows : Int) : String :=
  if columns = 0 ∧ rows = 0 then formula
  else String.ofList ((segments formula.toList).flatMap (Segment.shift columns rows))

/-- A formula that stood in one cell as it reads in another.  A text that is
no formula stays as it is. -/
def move (formula source target : String) : String :=
  if isFormula formula then
    let source := Address.decode (source.toList.map Char.toUpper)
    let target := Address.decode (target.toList.map Char.toUpper)
    shift formula ((target.column : Int) - source.column) ((target.row : Int) - source.row)
  else formula

end Formula
end Worksheet
