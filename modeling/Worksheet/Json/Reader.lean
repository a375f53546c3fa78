import Worksheet.Json.Basic

namespace Worksheet
namespace Json

/-!
Reading JSON.  The reader takes one character after another and holds what is
open: the containers around the place it has reached, and the token it is in.
A text is a value when every character can be taken and nothing is left open.
Reading is a fold over the characters, so it needs no depth limit.
-/

/-! ## Strings -/

/-- Where an escape inside a string stands. -/
inductive Escape where
  | none
  | backslash
  | unicode (digits value : Nat)
deriving DecidableEq, Repr

/-- A string that is being read, its characters in reverse.  A leading
surrogate waits for its partner; one that does not get it makes the string
no text. -/
structure OpenString where
  reversed : List Char
  leading : Option Nat
  broken : Bool
  escape : Escape
deriving DecidableEq, Repr

namespace OpenString

/-- A string after its opening quote. -/
def empty : OpenString := ⟨[], .none, false, .none⟩

/-- A string with one more character. -/
def push (content : OpenString) (c : Char) : OpenString :=
  { reversed := c :: content.reversed
    leading := .none
    broken := content.broken || content.leading.isSome
    escape := .none }

/-- A string with one more unit given by its number. -/
def pushUnit (content : OpenString) (unit : Nat) : OpenString :=
  if 0xDC00 ≤ unit ∧ unit < 0xE000 then
    match content.leading with
    | some leading =>
      let code := 0x10000 + (leading - 0xD800) * 0x400 + (unit - 0xDC00)
      { content with reversed := Char.ofNat code :: content.reversed, leading := .none, escape := .none }
    | .none => { content with broken := true, escape := .none }
  else if 0xD800 ≤ unit ∧ unit < 0xDC00 then
    { content with
      leading := some unit
      broken := content.broken || content.leading.isSome
      escape := .none }
  else content.push (Char.ofNat unit)

/-- The text of a string at its closing quote. -/
def close (content : OpenString) : Option String :=
  if content.broken || content.leading.isSome then .none
  else some (String.ofList content.reversed.reverse)

/-- The character that a short escape stands for. -/
def shortEscape? : Char → Option Char
  | '"' => some '"'
  | '\\' => some '\\'
  | '/' => some '/'
  | 'b' => some '\x08'
  | 'f' => some '\x0c'
  | 'n' => some '\n'
  | 'r' => some '\r'
  | 't' => some '\t'
  | _ => .none

/-- The value of a hexadecimal digit. -/
def hexValue? (c : Char) : Option Nat :=
  if c.isDigit then some (c.toNat - 48)
  else if 'a' ≤ c ∧ c ≤ 'f' then some (c.toNat - 87)
  else if 'A' ≤ c ∧ c ≤ 'F' then some (c.toNat - 55)
  else .none

/-- Takes a character that does not close the string. -/
def take? (content : OpenString) (c : Char) : Option OpenString :=
  match content.escape with
  | .none =>
    if c = '\\' then some { content with escape := .backslash }
    else if c < ' ' then .none
    else some (content.push c)
  | .backslash =>
    if c = 'u' then some { content with escape := .unicode 0 0 }
    else (shortEscape? c).map content.push
  | .unicode digits value =>
    (hexValue? c).map fun digit =>
      let value := value * 16 + digit
      if digits = 3 then content.pushUnit value
      else { content with escape := .unicode (digits + 1) value }

end OpenString

/-! ## Numbers -/

/-- Where a number stands that is being read. -/
inductive NumberStage where
  | sign
  | zero
  | whole
  | point
  | fraction
  | marker
  | exponentSign
  | exponent
deriving DecidableEq, Repr

namespace NumberStage

/-- The stage after the first character of a number. -/
def first? (c : Char) : Option NumberStage :=
  if c = '-' then some .sign
  else if c = '0' then some .zero
  else if c.isDigit then some .whole
  else none

/-- Whether a number may end at a stage. -/
def isComplete : NumberStage → Bool
  | .zero | .whole | .fraction | .exponent => true
  | .sign | .point | .marker | .exponentSign => false

/-- The stage after one more character, if that belongs to the number. -/
def next? (stage : NumberStage) (c : Char) : Option NumberStage :=
  let afterWhole : Option NumberStage :=
    if c = '.' then some .point else if c = 'e' ∨ c = 'E' then some .marker else none
  match stage with
  | .sign => if c = '0' then some .zero else if c.isDigit then some .whole else none
  | .zero => afterWhole
  | .whole => if c.isDigit then some .whole else afterWhole
  | .point => if c.isDigit then some .fraction else none
  | .fraction =>
    if c.isDigit then some .fraction else if c = 'e' ∨ c = 'E' then some .marker else none
  | .marker =>
    if c = '+' ∨ c = '-' then some .exponentSign else if c.isDigit then some .exponent else none
  | .exponentSign => if c.isDigit then some .exponent else none
  | .exponent => if c.isDigit then some .exponent else none

end NumberStage

/-! ## Values -/

/-- A container around the value that is being read, with what it holds so
far in reverse. -/
inductive Frame where
  | items (before : List Json)
  | fields (before : List (Option String × Json)) (key : Option String)

/-- What is being read in the innermost container. -/
inductive Focus where
  /-- A value must begin. -/
  | value
  /-- A value begins or the array ends. -/
  | firstItem
  /-- A key begins; the object may end if it is still empty. -/
  | key (before : List (Option String × Json)) (mayEnd : Bool)
  | keyText (before : List (Option String × Json)) (content : OpenString)
  | colon (before : List (Option String × Json)) (key : Option String)
  | text (content : OpenString)
  | number (stage : NumberStage) (reversed : List Char)
  /-- The rest of a fixed word and the value it stands for. -/
  | word (rest : List Char) (value : Json)
  /-- A value has ended. -/
  | ended (value : Json)

/-- What the reader holds between two characters. -/
structure Progress where
  frames : List Frame
  focus : Focus

/-- The characters that may stand between tokens. -/
def isSpace (c : Char) : Bool :=
  c = ' ' || c = '\n' || c = '\t' || c = '\r'

/-- Takes the first character of a value. -/
def beginValue? (frames : List Frame) (c : Char) : Option Progress :=
  if c = '{' then some ⟨frames, .key [] true⟩
  else if c = '[' then some ⟨frames, .firstItem⟩
  else if c = '"' then some ⟨frames, .text .empty⟩
  else if c = 'n' then some ⟨frames, .word "ull".toList .null⟩
  else if c = 't' then some ⟨frames, .word "rue".toList (.bool true)⟩
  else if c = 'f' then some ⟨frames, .word "alse".toList (.bool false)⟩
  else (NumberStage.first? c).map fun stage => ⟨frames, .number stage [c]⟩

/-- Takes the character after a value. -/
def afterValue? (frames : List Frame) (value : Json) (c : Char) : Option Progress :=
  if isSpace c then some ⟨frames, .ended value⟩
  else match frames with
    | [] => none
    | .items before :: outer =>
      if c = ',' then some ⟨.items (value :: before) :: outer, .value⟩
      else if c = ']' then some ⟨outer, .ended (.array (value :: before).reverse)⟩
      else none
    | .fields before key :: outer =>
      let fields := (key, value) :: before
      if c = ',' then some ⟨outer, .key fields false⟩
      else if c = '}' then some ⟨outer, .ended (.object fields.reverse)⟩
      else none

/-- Takes one character. -/
def step? (progress : Progress) (c : Char) : Option Progress :=
  let ⟨frames, focus⟩ := progress
  match focus with
  | .value => if isSpace c then some progress else beginValue? frames c
  | .firstItem =>
    if isSpace c then some progress
    else if c = ']' then some ⟨frames, .ended (.array [])⟩
    else beginValue? (.items [] :: frames) c
  | .key before mayEnd =>
    if isSpace c then some progress
    else if c = '"' then some ⟨frames, .keyText before .empty⟩
    else if c = '}' ∧ mayEnd then some ⟨frames, .ended (.object [])⟩
    else none
  | .keyText before content =>
    if c = '"' ∧ content.escape = .none then some ⟨frames, .colon before content.close⟩
    else (content.take? c).map fun content => ⟨frames, .keyText before content⟩
  | .colon before key =>
    if isSpace c then some progress
    else if c = ':' then some ⟨.fields before key :: frames, .value⟩
    else none
  | .text content =>
    if c = '"' ∧ content.escape = .none then some ⟨frames, .ended (.string content.close)⟩
    else (content.take? c).map fun content => ⟨frames, .text content⟩
  | .number stage reversed =>
    match stage.next? c with
    | some stage => some ⟨frames, .number stage (c :: reversed)⟩
    | none =>
      if stage.isComplete then afterValue? frames (.number reversed.reverse) c else none
  | .word rest value =>
    match rest with
    | [] => afterValue? frames value c
    | expected :: rest => if c = expected then some ⟨frames, .word rest value⟩ else none
  | .ended value => afterValue? frames value c

/-- The value that has been read when the text ends. -/
def finish? (progress : Progress) : Option Json :=
  match progress with
  | ⟨[], .ended value⟩ => some value
  | ⟨[], .word [] value⟩ => some value
  | ⟨[], .number stage reversed⟩ =>
    if stage.isComplete then some (.number reversed.reverse) else none
  | _ => none

/-- The value that a text is. -/
def parse? (text : List Char) : Option Json :=
  (text.foldlM step? ⟨[], .value⟩).bind finish?

end Json
end Worksheet
