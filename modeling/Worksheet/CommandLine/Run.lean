import Worksheet.CommandLine.Host
import Worksheet.CommandLine.Options
import Worksheet.Document.Editing
import Worksheet.Document.File
import Worksheet.Formula.Evaluation
import Worksheet.Settings

namespace Worksheet
namespace CommandLine

/-!
A run of the command line.  Settings are read first, and their faults are
only reported.  Then the document is opened, if its file exists, and the
operations run in their order up to the first failure; what was printed and
saved before stays.
-/

/-! ## Settings -/

/-- Faults of a settings file, which do not stop a run. -/
inductive SettingsWarning where
  | notFound (path : String)
  | sizeUnknown (path : String) (error : FileError)
  | tooLarge (path : String) (bytes : Nat)
  | unreadable (path : String) (error : FileError)
  | malformed (path : String)
deriving DecidableEq, Repr

/-- The wording of a fault. -/
def SettingsWarning.message : SettingsWarning → String
  | notFound path => "Config file not found: " ++ path
  | sizeUnknown path error => "Failed to read metadata for " ++ path ++ ": " ++ error.message
  | tooLarge path bytes =>
    "Refusing to read " ++ path ++ ": file too large (" ++ Numeral.text bytes ++
      " bytes, max " ++ Numeral.text Settings.maxFileBytes ++ ")"
  | unreadable path error => "Failed to read " ++ path ++ ": " ++ error.message
  | malformed path => "Failed to parse " ++ path

/-! ## Failures -/

/-- Failures that end a run. -/
inductive RunError where
  | loadFile (path : String) (error : FileError)
  | loadText (path : String)
  | loadSize (path : String) (bytes : Nat)
  | notCell (id : String)
  | fillRange (range : String) (error : RangeError)
  | saveFile (path : String) (error : FileError)
deriving DecidableEq, Repr

/-- The wording of a failure: what was tried and why it failed.  A cause from
outside the document's own rules is named by its kind and again by itself. -/
def RunError.message : RunError → String
  | loadFile path error =>
    "failed to load " ++ path ++ ": IO error: " ++ error.message ++ ": " ++ error.message
  | loadText path => "failed to load " ++ path ++ ": JSON error"
  | loadSize path bytes =>
    "failed to load " ++ path ++ ": " ++ Document.tooLargeMessage path bytes
  | notCell id => "invalid cell reference: " ++ id
  | fillRange range error =>
    "failed to fill " ++ range ++ ": Range error: " ++ error.message ++ ": " ++ error.message
  | saveFile path error =>
    "failed to save " ++ path ++ ": IO error: " ++ error.message ++ ": " ++ error.message

/-! ## Steps of a run -/

/-- How the program is used. -/
def usageLines : List String :=
  ["Usage: tabula [OPTIONS] [FILE]",
    "",
    "Arguments:",
    "  [FILE]                    Spreadsheet document to open (.json)",
    "",
    "Options:",
    "  -s, --set <CELL=INPUT>    Set a cell from input (can be repeated)",
    "  --copy <FROM> <TO>        Copy a cell, shifting relative references",
    "  --fill <FROM> <RANGE>     Copy a cell into every cell of a range",
    "  -e, --eval <FORMULA>      Evaluate a formula against the sheet",
    "  -p, --print               Print non-empty cells",
    "  -o, --output <FILE>       Save the document as JSON",
    "  --recalc <direct|full>    Recalculation mode (default: direct)",
    "  --recalc-all              Recalculate every formula cell",
    "  --config <FILE>           Read configuration from FILE",
    "  -h, --help                Print help"]

/-- The help text. -/
def usage : String :=
  String.join (usageLines.map (· ++ "\n"))

/-- Whether a text, less the blanks around it, is the identifier of a cell. -/
def isCell (id : String) : Bool :=
  (Address.parse? (String.ofList (Text.trim id.toList))).isSome

/-- What is printed for the cells that are not blank. -/
def listing (document : Document) : String :=
  String.join (document.nonBlankCells.map fun (id, cell) => id ++ ": " ++ cell.display ++ "\n")

section

variable {m : Type → Type} [Monad m] (host : Host m)

/-- Reads a settings file that is there. -/
def readSettings (path : String) : m (Except SettingsWarning Settings) := do
  match ← host.size path with
  | .error error => return .error (.sizeUnknown path error)
  | .ok bytes =>
    if Settings.maxFileBytes < bytes then return .error (.tooLarge path bytes)
    else
      match ← host.read path with
      | .error error => return .error (.unreadable path error)
      | .ok text =>
        match Settings.parse? text.toList with
        | some settings => return .ok settings
        | none => return .error (.malformed path)

/-- The settings of a run, from the file that is named or else from the one
that the user keeps, which may be missing. -/
def findSettings (named : Option String) : m (Except SettingsWarning Settings) := do
  match named with
  | some path =>
    if ← host.isPresent path then readSettings host path else return .error (.notFound path)
  | none =>
    match ← host.settingsFile? with
    | some path => if ← host.isPresent path then readSettings host path else return .ok {}
    | none => return .ok {}

/-- Opens the document of a file. -/
def openFile (path : String) : m (Except RunError Document) := do
  match ← host.size path with
  | .error error => return .error (.loadFile path error)
  | .ok bytes =>
    if Document.maxFileBytes < bytes then return .error (.loadSize path bytes)
    else
      match ← host.read path with
      | .error error => return .error (.loadFile path error)
      | .ok text =>
        match Document.load? text with
        | some document => return .ok document
        | none => return .error (.loadText path)

/-- The document that a run starts with: that of the file, or a new one if
there is no such file. -/
def openDocument : Option String → m (Except RunError Document)
  | some path => do
    if ← host.isPresent path then openFile host path else return .ok { id := 1 }
  | none => return .ok { id := 1 }

/-- Does one operation. -/
def perform (mode : RecalculationMode) (document : Document) :
    Operation → m (Except RunError Document)
  | .set cell input => do
    if isCell cell then return .ok (document.setInput mode (← host.now) cell input)
    else return .error (.notCell cell)
  | .copy source target => do
    if !isCell source then return .error (.notCell source)
    else if !isCell target then return .error (.notCell target)
    else return .ok (document.copy mode (← host.now) source target)
  | .fill source range => do
    if !isCell source then return .error (.notCell source)
    else
      match document.fill mode (← host.now) source range with
      | (.ok _, document) => return .ok document
      | (.error error, _) => return .error (.fillRange range error)
  | .evaluate formula => do
    host.print (Formula.evaluate formula document.data.value? ++ "\n")
    return .ok document
  | .print => do
    host.print (listing document)
    return .ok document
  | .recalculateAll => do
    return .ok (document.recalculate mode (← host.now))
  | .save path => do
    match ← host.write path document.save with
    | .ok () =>
      host.report ("Saved to " ++ path ++ "\n")
      return .ok document
    | .error error => return .error (.saveFile path error)

/-- Does operations in order, up to the first that fails. -/
def performAll (mode : RecalculationMode) (document : Document) :
    List Operation → m (Except RunError Document)
  | [] => return .ok document
  | operation :: rest => do
    match ← perform host mode document operation with
    | .ok document => performAll mode document rest
    | .error error => return .error error

/-- Does what the options ask for. -/
def work (options : Options) : m (Except RunError Document) := do
  let settings ← match ← findSettings host options.settingsFile with
    | .ok settings => pure settings
    | .error warning =>
      host.report ("Warning: " ++ warning.message ++ "\n")
      pure {}
  let mode := (options.mode <|> settings.recalculation).getD default
  match ← openDocument host options.file with
  | .ok document => performAll host mode document options.operations
  | .error error => return .error error

/-- Runs the program with arguments, and gives its exit code. -/
def run (arguments : List String) : m UInt32 := do
  match Request.ofArguments arguments with
  | .error error =>
    host.report ("Error: " ++ error.message ++ "\n" ++ usage)
    return 1
  | .ok .help =>
    host.report usage
    return 0
  | .ok (.work options) =>
    match ← work host options with
    | .ok _ => return 0
    | .error error =>
      host.report ("Error: " ++ error.message ++ "\n")
      return 1

end

end CommandLine
end Worksheet
