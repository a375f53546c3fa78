namespace Worksheet

/-!
JSON values and their text.  Numbers keep the characters they are written
with, since what number they stand for depends on what reads them.  Objects
keep their fields in order with repetitions, since who reads a field decides
what a repetition means.
-/

/-- A JSON value.  A string that names half of a surrogate pair is no text;
such a string may stand in a document but can only be passed over. -/
inductive Json where
  | null
  | bool (value : Bool)
  | number (literal : List Char)
  | string (text : Option String)
  | array (items : List Json)
  | object (fields : List (Option String × Json))

namespace Json

instance : Inhabited Json := ⟨.null⟩

/-- A string that is a text. -/
def ofString (text : String) : Json :=
  .string (some text)

/-- An object with the given fields. -/
def ofFields (fields : List (String × Json)) : Json :=
  .object (fields.map fun (key, value) => (some key, value))

/-! ## Writing -/

/-- The hexadecimal digit of a number below sixteen. -/
def hexDigit (number : Nat) : Char :=
  if number < 10 then Char.ofNat (48 + number) else Char.ofNat (87 + number)

/-- A character inside a string.  Quotes, backslashes and control characters
are escaped and nothing else is. -/
def escape (c : Char) : List Char :=
  if c = '"' then ['\\', '"']
  else if c = '\\' then ['\\', '\\']
  else if c = '\n' then ['\\', 'n']
  else if c = '\r' then ['\\', 'r']
  else if c = '\t' then ['\\', 't']
  else if c = '\x08' then ['\\', 'b']
  else if c = '\x0c' then ['\\', 'f']
  else if c < ' ' then
    ['\\', 'u', '0', '0', hexDigit (c.toNat / 16), hexDigit (c.toNat % 16)]
  else [c]

/-- A quoted text.  The string that is no text is written as a lone
surrogate. -/
def quote : Option String → List Char
  | some text => '"' :: (text.toList.flatMap escape ++ ['"'])
  | none => "\"\\ud800\"".toList

/-- Where lines end inside arrays and objects, and what follows a key's
colon. -/
structure Layout where
  lineBreak : Nat → List Char
  afterColon : List Char

/-- Everything on one line, without blanks. -/
def compactLayout : Layout := ⟨fun _ => [], []⟩

/-- A line for each item and field, indented by two blanks a level. -/
def indentedLayout : Layout := ⟨fun depth => '\n' :: List.replicate (2 * depth) ' ', [' ']⟩

/-- Brackets around parts, each on its own line. -/
def bracket (layout : Layout) (depth : Nat) (opening closing : Char) (parts : List (List Char)) :
    List Char :=
  match parts with
  | [] => [opening, closing]
  | _ =>
    let lines := parts.map (layout.lineBreak (depth + 1) ++ ·)
    opening :: ((lines.intersperse [',']).flatten ++ layout.lineBreak depth ++ [closing])

mutual

/-- The characters of a value at a depth. -/
def write (layout : Layout) (depth : Nat) : Json → List Char
  | .null => "null".toList
  | .bool true => "true".toList
  | .bool false => "false".toList
  | .number literal => literal
  | .string text => quote text
  | .array items => bracket layout depth '[' ']' (writeItems layout (depth + 1) items)
  | .object fields => bracket layout depth '{' '}' (writeFields layout (depth + 1) fields)

/-- The characters of each item of an array. -/
def writeItems (layout : Layout) (depth : Nat) : List Json → List (List Char)
  | [] => []
  | item :: items => write layout depth item :: writeItems layout depth items

/-- The characters of each field of an object. -/
def writeFields (layout : Layout) (depth : Nat) :
    List (Option String × Json) → List (List Char)
  | [] => []
  | (key, value) :: fields =>
    (quote key ++ ':' :: (layout.afterColon ++ write layout depth value)) ::
      writeFields layout depth fields

end

/-- The text of a value on one line. -/
def compact (value : Json) : String :=
  String.ofList (value.write compactLayout 0)

/-- The text of a value on indented lines. -/
def indented (value : Json) : String :=
  String.ofList (value.write indentedLayout 0)

end Json
end Worksheet
