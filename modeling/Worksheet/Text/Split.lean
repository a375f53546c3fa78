namespace Worksheet
namespace Text

/-!
Cutting a text at separators.  Between two separators there is always a
piece, possibly empty, so a text with n separators has n + 1 pieces.
-/

/-- The pieces of a text between the occurrences of a separator. -/
def split (separator : Char) (text : List Char) : List (List Char) :=
  text.foldr
    (fun c pieces =>
      if c = separator then [] :: pieces
      else match pieces with
        | [] => [[c]]
        | piece :: rest => (c :: piece) :: rest)
    [[]]

/-- What stands before the last occurrence of a mark; nothing if the mark is
missing. -/
def beforeLast (mark : Char) (text : List Char) : List Char :=
  ((text.reverse.dropWhile (· ≠ mark)).drop 1).reverse

/-- What stands before and after the first occurrence of a mark. -/
def cutAtFirst? (mark : Char) (text : List Char) : Option (List Char × List Char) :=
  match text.dropWhile (· ≠ mark) with
  | [] => none
  | _ :: rest => some (text.takeWhile (· ≠ mark), rest)

theorem split_ne_nil (separator : Char) (text : List Char) : split separator text ≠ [] := by
  cases text with
  | nil => simp [split]
  | cons c rest =>
    simp only [split, List.foldr_cons]
    split
    · simp
    · split <;> simp

end Text
end Worksheet
