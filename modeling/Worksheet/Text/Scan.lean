namespace Worksheet
namespace Text

/-!
Searching a text from left to right.  A measure says how many characters of
a text, counted from its beginning, belong to the thing sought: zero when it
does not begin there.  The search takes the thing wherever it first begins
and goes on after it, so what it finds never overlaps.
-/

/-- A part of a searched text: a thing found, or a character outside all of
them. -/
inductive Piece where
  | found (lexeme : List Char)
  | plain (c : Char)
deriving DecidableEq, Repr

/-- The characters of a piece. -/
def Piece.chars : Piece → List Char
  | found lexeme => lexeme
  | plain c => [c]

/-- The thing found in a piece, if it is one. -/
def Piece.lexeme? : Piece → Option (List Char)
  | found lexeme => some lexeme
  | plain _ => none

/-- A text cut into the things found and the characters between them. -/
def pieces (measure : List Char → Nat) (text : List Char) : List Piece :=
  match text with
  | [] => []
  | c :: rest =>
    match measure (c :: rest) with
    | 0 => .plain c :: pieces measure rest
    | length + 1 => .found (c :: rest.take length) :: pieces measure (rest.drop length)
termination_by text.length
decreasing_by
  · simp
  · simp only [List.length_drop, List.length_cons]; omega

/-- The things found in a text, in order. -/
def findAll (measure : List Char → Nat) (text : List Char) : List (List Char) :=
  (pieces measure text).filterMap Piece.lexeme?

/-- A text with each thing found in it changed. -/
def mapFound (measure : List Char → Nat) (change : List Char → List Char)
    (text : List Char) : List Char :=
  (pieces measure text).flatMap fun
    | .found lexeme => change lexeme
    | .plain c => [c]

/-- A search loses nothing: the pieces together are the text. -/
theorem flatMap_chars_pieces (measure : List Char → Nat) (text : List Char) :
    (pieces measure text).flatMap Piece.chars = text := by
  fun_induction pieces measure text with
  | case1 => rfl
  | case2 c rest _ ih => simp [Piece.chars, ih]
  | case3 c rest length _ ih => simp [Piece.chars, ih]

/-- How many characters a fixed text takes at the beginning of another. -/
def literalMeasure (sought : List Char) (text : List Char) : Nat :=
  if sought.isPrefixOf text then sought.length else 0

/-- A text with every occurrence of another replaced, from left to right. -/
def replaceAll (sought replacement text : List Char) : List Char :=
  mapFound (literalMeasure sought) (fun _ => replacement) text

end Text
end Worksheet
