import Worksheet.Text.CaseTable

namespace Worksheet
namespace Text

/-!
Upper and lower case of texts.  A character may become several, so the maps
are from characters to texts.  Raising treats each character by itself.
Lowering does too, except that a capital sigma at the end of a word becomes
the final small sigma: one that follows a cased character and is not
followed by one, characters that are ignored for case not counted.
-/

/-- Whether a character lies in one of the given runs. -/
def inRanges (ranges : List (Nat × Nat)) (c : Char) : Bool :=
  ranges.any fun (first, last) => first ≤ c.toNat && c.toNat ≤ last

/-- Where a character moves by the given runs, if it moves. -/
def moved? (runs : List (Nat × Nat × Nat × Int)) (code : Nat) : Option Nat :=
  runs.findSome? fun (first, last, step, distance) =>
    if first ≤ code ∧ code ≤ last ∧ (code - first) % step = 0 then
      some ((code : Int) + distance).toNat
    else none

/-- A character changed by expansions and runs. -/
def mapCase (expansions : List (Nat × List Nat)) (runs : List (Nat × Nat × Nat × Int))
    (c : Char) : List Char :=
  match expansions.lookup c.toNat with
  | some codes => codes.map Char.ofNat
  | none => [((moved? runs c.toNat).map Char.ofNat).getD c]

/-- The upper case of a character. -/
def upperChar (c : Char) : List Char :=
  mapCase upperExpansions upperRuns c

/-- The lower case of a character outside any text. -/
def lowerChar (c : Char) : List Char :=
  mapCase lowerExpansions lowerRuns c

/-- A text in upper case. -/
def upper (text : List Char) : List Char :=
  text.flatMap upperChar

/-- Whether a character is passed over in the search for a cased neighbour. -/
def isCaseIgnorable (c : Char) : Bool :=
  inRanges caseIgnorableRanges c

/-- Whether a character that is not passed over has a case. -/
def isCased (c : Char) : Bool :=
  inRanges casedRanges c

/-- Whether the first character that counts is cased. -/
def beginsCased (text : List Char) : Bool :=
  match text.dropWhile isCaseIgnorable with
  | [] => false
  | c :: _ => isCased c

/-- The lower case of the rest of a text, given whether the last character
that counts before it was cased. -/
def lowerAfter (cased : Bool) : List Char → List Char
  | [] => []
  | c :: rest =>
    let lowered :=
      if c = 'Σ' then [if cased && !beginsCased rest then 'ς' else 'σ'] else lowerChar c
    lowered ++ lowerAfter (if isCaseIgnorable c then cased else isCased c) rest

/-- A text in lower case. -/
def lower (text : List Char) : List Char :=
  lowerAfter false text

end Text
end Worksheet
