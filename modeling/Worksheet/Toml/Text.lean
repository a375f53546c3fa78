namespace Worksheet
namespace Toml

/-!
Tokens of TOML 1.0 that a settings file may contain: blanks and comments,
keys, and the four kinds of strings.  Every reader takes a text, and gives
what it read and what follows it, or nothing if the text does not begin that
way.
-/

/-! ## Blanks, comments and line ends -/

/-- Blanks within a line. -/
def isBlank (c : Char) : Bool :=
  c = ' ' || c = '\t'

/-- A text without the blanks it begins with. -/
def skipBlanks (text : List Char) : List Char :=
  text.dropWhile isBlank

/-- The characters of a comment: all but control characters, with the tab
allowed. -/
def isCommentChar (c : Char) : Bool :=
  c = '\t' || (' ' ≤ c && c ≠ '\x7f')

/-- A text after the line end it begins with: a line feed, or a carriage
return and a line feed. -/
def takeLineBreak? : List Char → Option (List Char)
  | '\n' :: rest => some rest
  | '\r' :: '\n' :: rest => some rest
  | _ => none

/-- A text without the comment it begins with, if there is one. -/
def skipComment : List Char → List Char
  | '#' :: rest => rest.dropWhile isCommentChar
  | text => text

/-- What follows a line after its last token: blanks, perhaps a comment, and
the end of the line or of the text. -/
def endLine? (text : List Char) : Option (List Char) :=
  match skipComment (skipBlanks text) with
  | [] => some []
  | rest => takeLineBreak? rest

/-- A text without the blanks and line breaks it begins with. -/
def skipBlankLines : List Char → List Char
  | '\n' :: rest => skipBlankLines rest
  | '\r' :: '\n' :: rest => skipBlankLines rest
  | c :: rest => if isBlank c then skipBlankLines rest else c :: rest
  | [] => []

theorem length_skipBlankLines_le (text : List Char) :
    (skipBlankLines text).length ≤ text.length := by
  fun_induction skipBlankLines text <;> simp_all <;> omega

/-- Skips blanks, line breaks and comments, given whether a comment is
open. -/
def skipSpace (comment : Bool) : List Char → List Char
  | '\n' :: rest => skipSpace false rest
  | '\r' :: '\n' :: rest => skipSpace false rest
  | c :: rest =>
    if comment then (if isCommentChar c then skipSpace true rest else c :: rest)
    else if isBlank c then skipSpace false rest
    else if c = '#' then skipSpace true rest
    else c :: rest
  | [] => []

theorem length_skipSpace_le (comment : Bool) (text : List Char) :
    (skipSpace comment text).length ≤ text.length := by
  fun_induction skipSpace comment text <;> simp_all <;> omega

/-! ## Strings -/

/-- The characters that may stand for themselves in a literal string. -/
def isLiteralChar (c : Char) : Bool :=
  isCommentChar c

/-- The number of a hexadecimal numeral. -/
def hexNumber? (digits : List Char) : Option Nat :=
  digits.foldlM
    (fun total c =>
      if c.isDigit then some (total * 16 + (c.toNat - 48))
      else if 'a' ≤ c ∧ c ≤ 'f' then some (total * 16 + (c.toNat - 87))
      else if 'A' ≤ c ∧ c ≤ 'F' then some (total * 16 + (c.toNat - 55))
      else none)
    0

/-- The character with a number given in hexadecimal digits. -/
def unicode? (width : Nat) (text : List Char) : Option (Char × Nat) :=
  let digits := text.take width
  if digits.length < width then none
  else (hexNumber? digits).bind fun code =>
    if code.isValidChar then some (Char.ofNat code, width + 1) else none

/-- The character that an escape stands for, given what follows the
backslash, and how many characters it takes. -/
def escape? : List Char → Option (Char × Nat)
  | 'b' :: _ => some ('\x08', 1)
  | 't' :: _ => some ('\t', 1)
  | 'n' :: _ => some ('\n', 1)
  | 'f' :: _ => some ('\x0c', 1)
  | 'r' :: _ => some ('\r', 1)
  | '"' :: _ => some ('"', 1)
  | '\\' :: _ => some ('\\', 1)
  | 'u' :: rest => unicode? 4 rest
  | 'U' :: rest => unicode? 8 rest
  | _ => none

/-- A reading with characters put in front of what was read. -/
def after (characters : List Char) (reading : Option (List Char × List Char)) :
    Option (List Char × List Char) :=
  reading.map fun (read, rest) => (characters ++ read, rest)

/-- The rest of a string on one line with escapes, up to its quote. -/
def basicRest? (text : List Char) : Option (List Char × List Char) :=
  match text with
  | [] => none
  | c :: rest =>
    if c = '"' then some ([], rest)
    else if c = '\\' then
      match escape? rest with
      | some (escaped, length) => after [escaped] (basicRest? (rest.drop length))
      | none => none
    else if isCommentChar c then after [c] (basicRest? rest)
    else none
termination_by text.length
decreasing_by
  · simp only [List.length_drop, List.length_cons]; omega
  · simp

/-- The rest of a string that may run over lines, up to three of its quotes.
One or two quotes are part of the string, also before the closing ones.  With
escapes, a backslash at the end of a line takes away the blanks and line
breaks up to the next character. -/
def longRest? (quote : Char) (escapes : Bool) (text : List Char) :
    Option (List Char × List Char) :=
  match text with
  | [] => none
  | c :: rest =>
    if c = quote then
      let more := (rest.takeWhile (· = quote)).length
      if more < 2 then
        after (List.replicate (more + 1) quote) (longRest? quote escapes (rest.drop more))
      else if more ≤ 4 then some (List.replicate (more - 2) quote, rest.drop more)
      else none
    else if c = '\\' ∧ escapes then
      match escape? rest with
      | some (escaped, length) => after [escaped] (longRest? quote escapes (rest.drop length))
      | none =>
        if (takeLineBreak? (skipBlanks rest)).isSome then
          longRest? quote escapes (skipBlankLines rest)
        else none
    else if isCommentChar c ∨ c = '\n' then after [c] (longRest? quote escapes rest)
    else if c = '\r' ∧ rest.head? = some '\n' then longRest? quote escapes rest
    else none
termination_by text.length
decreasing_by
  · simp only [List.length_drop, List.length_cons]; omega
  · simp only [List.length_drop, List.length_cons]; omega
  · have := length_skipBlankLines_le rest
    simp only [List.length_cons]; omega
  · simp
  · simp

/-- The rest of a literal string on one line, up to its quote. -/
def literalRest? (text : List Char) : Option (List Char × List Char) :=
  let inside := text.takeWhile fun c => c ≠ '\'' && isLiteralChar c
  match text.drop inside.length with
  | '\'' :: rest => some (inside, rest)
  | _ => none

/-- A text after the line break right behind the opening quotes of a string
that may run over lines. -/
def dropFirstBreak (text : List Char) : List Char :=
  (takeLineBreak? text).getD text

/-- A string of any kind. -/
def string? : List Char → Option (List Char × List Char)
  | '"' :: '"' :: '"' :: rest => longRest? '"' true (dropFirstBreak rest)
  | '\'' :: '\'' :: '\'' :: rest => longRest? '\'' false (dropFirstBreak rest)
  | '"' :: rest => basicRest? rest
  | '\'' :: rest => literalRest? rest
  | _ => none

/-! ## Keys -/

/-- The characters of a bare key. -/
def isKeyChar (c : Char) : Bool :=
  c.isAlphanum || c = '_' || c = '-'

/-- One part of a key: bare, or a string on one line. -/
def keyPart? (text : List Char) : Option (List Char × List Char) :=
  match text with
  | '"' :: rest => basicRest? rest
  | '\'' :: rest => literalRest? rest
  | _ =>
    let key := text.takeWhile isKeyChar
    if key = [] then none else some (key, text.drop key.length)

/-- A key of one part or of two with a point between, and blanks around the
parts. -/
def key? (text : List Char) : Option (List (List Char) × List Char) := do
  let (first, rest) ← keyPart? (skipBlanks text)
  match skipBlanks rest with
  | '.' :: rest =>
    let (second, rest) ← keyPart? (skipBlanks rest)
    return ([first, second], skipBlanks rest)
  | rest => return ([first], rest)

end Toml
end Worksheet
