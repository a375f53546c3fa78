import Worksheet.Recalculation.Mode
import Worksheet.Toml.Text

namespace Worksheet

/-!
Settings.  A settings file is TOML with at most two keys: `recalc`, the
recalculation mode, and `log_level`, a text.  The mode is a string, or a table
whose only key is the name of a mode and holds nothing; both may be written
in every way that TOML has.  Any other content makes the file malformed.
-/

/-- What a settings file sets. -/
structure Settings where
  recalculation : Option RecalculationMode := none
  logLevel : Option String := none
deriving DecidableEq, Repr

namespace Settings

/-- The most bytes that a settings file may have. -/
def maxFileBytes : Nat := 1048576

/-- Forms of values that settings may have. -/
inductive Value where
  | text (content : List Char)
  /-- An array or a table without entries. -/
  | nothing
  /-- A table on one line with one key that holds nothing. -/
  | choice (key : List Char)
deriving DecidableEq, Repr

/-- Where assignments go: to the file, to the mode's table, or to a table
inside that, which must stay empty. -/
inductive Section where
  | file
  | mode
  | choice
deriving DecidableEq, Repr

/-- What is known of the mode. -/
inductive ModeState where
  | unset
  /-- Written as one value. -/
  | written (mode : RecalculationMode)
  /-- A table, whether it was opened by its own header, and its key. -/
  | table (opened : Bool) (key : Option RecalculationMode)
deriving DecidableEq, Repr

/-- A settings file that has been read up to some line. -/
structure Progress where
  current : Section := .file
  mode : ModeState := .unset
  logLevel : Option String := none
deriving DecidableEq, Repr

/-! ## Lines -/

/-- What one line with content says. -/
inductive Statement where
  | header (key : List (List Char))
  | assignment (key : List (List Char)) (value : Value)
deriving DecidableEq, Repr

/-- An array or a table without entries. -/
def nothing? : List Char → Option (List Char)
  | '[' :: rest =>
    match Toml.skipSpace false rest with
    | ']' :: rest => some rest
    | _ => none
  | '\x7b' :: rest =>
    match Toml.skipBlanks rest with
    | '\x7d' :: rest => some rest
    | _ => none
  | _ => none

/-- The rest of a table on one line with one key that holds nothing. -/
def choiceRest? (text : List Char) : Option (List Char × List Char) := do
  let (key, rest) ← Toml.keyPart? (Toml.skipBlanks text)
  match Toml.skipBlanks rest with
  | '=' :: rest =>
    match Toml.skipBlanks (← nothing? (Toml.skipBlanks rest)) with
    | '\x7d' :: rest => some (key, rest)
    | _ => none
  | _ => none

/-- A value. -/
def value? (text : List Char) : Option (Value × List Char) :=
  match nothing? text with
  | some rest => some (.nothing, rest)
  | none =>
    match text with
    | '\x7b' :: rest => (choiceRest? rest).map fun (key, rest) => (.choice key, rest)
    | _ => (Toml.string? text).map fun (content, rest) => (.text content, rest)

/-- A line with content, and the text after it. -/
def statement? (text : List Char) : Option (Statement × List Char) :=
  match text with
  | '[' :: rest => do
    let (key, rest) ← Toml.key? rest
    match rest with
    | ']' :: rest => return (.header key, ← Toml.endLine? rest)
    | _ => none
  | _ => do
    let (key, rest) ← Toml.key? text
    match rest with
    | '=' :: rest =>
      let (value, rest) ← value? (Toml.skipBlanks rest)
      return (.assignment key value, ← Toml.endLine? rest)
    | _ => none

/-! ## Meaning -/

/-- The mode with exactly the given name. -/
def mode? (name : List Char) : Option RecalculationMode :=
  if name = "direct".toList then some .direct
  else if name = "full".toList then some .full
  else none

/-- The key of the mode. -/
def modeKey : List Char := "recalc".toList

/-- The key of the level of messages. -/
def logLevelKey : List Char := "log_level".toList

/-- What a file says after one more assignment. -/
def assign? (progress : Progress) (key : List (List Char)) (value : Value) : Option Progress :=
  match progress.current, key, value with
  | .file, [name], .text content =>
    if name = modeKey ∧ progress.mode = .unset then do
      return { progress with mode := .written (← mode? content) }
    else if name = logLevelKey ∧ progress.logLevel = none then
      some { progress with logLevel := some (String.ofList content) }
    else none
  | .file, [name], .choice key =>
    if name = modeKey ∧ progress.mode = .unset then do
      return { progress with mode := .written (← mode? key) }
    else none
  | .file, [name, key], .nothing =>
    if name = modeKey ∧ progress.mode = .unset then do
      return { progress with mode := .written (← mode? key) }
    else none
  | .mode, [key], .nothing =>
    if progress.mode = .table true none then do
      return { progress with mode := .table true (some (← mode? key)) }
    else none
  | _, _, _ => none

/-- What a file says after one more header. -/
def openTable? (progress : Progress) (key : List (List Char)) : Option Progress :=
  match key with
  | [name] =>
    if name = modeKey then
      match progress.mode with
      | .unset => some { progress with current := .mode, mode := .table true none }
      | .table false key => some { progress with current := .mode, mode := .table true key }
      | _ => none
    else none
  | [name, key] =>
    if name = modeKey then
      match progress.mode with
      | .unset => do
        return { progress with current := .choice, mode := .table false (some (← mode? key)) }
      | .table opened none => do
        return { progress with current := .choice, mode := .table opened (some (← mode? key)) }
      | _ => none
    else none
  | _ => none

/-- What a file says after one more line. -/
def follow? (progress : Progress) : Statement → Option Progress
  | .header key => openTable? progress key
  | .assignment key value => assign? progress key value

/-- The settings of a file that has been read to its end. -/
def finish? (progress : Progress) : Option Settings :=
  match progress.mode with
  | .unset => some ⟨none, progress.logLevel⟩
  | .written mode => some ⟨some mode, progress.logLevel⟩
  | .table _ (some mode) => some ⟨some mode, progress.logLevel⟩
  | .table _ none => none

/-- Reads the lines of a file.  A line always takes characters, which the
comparison of lengths makes plain. -/
def readLines? (progress : Progress) (text : List Char) : Option Settings :=
  let lines := Toml.skipSpace false text
  if lines = [] then finish? progress
  else
    match statement? lines with
    | none => none
    | some (statement, rest) =>
      if rest.length < lines.length then
        (follow? progress statement).bind fun progress => readLines? progress rest
      else none
termination_by text.length
decreasing_by
  have : lines.length ≤ text.length := Toml.length_skipSpace_le false text
  omega

/-- The settings that a text sets, with a byte order mark allowed in front. -/
def parse? (text : List Char) : Option Settings :=
  readLines? {} (if text.head? = some '\uFEFF' then text.drop 1 else text)

end Settings
end Worksheet
