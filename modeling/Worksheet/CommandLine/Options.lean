import Worksheet.Recalculation.Mode
import Worksheet.Text.Split

namespace Worksheet
namespace CommandLine

/-!
Arguments of the command line.  They are options, some of which take the one
or two arguments that follow whatever these look like, and at most one
document file.  The operations asked for keep the order of the arguments;
mode and settings file may be given again, and the last one counts.
-/

/-- Work on the document. -/
inductive Operation where
  | set (cell input : String)
  | copy (source target : String)
  | fill (source range : String)
  | evaluate (formula : String)
  | print
  | recalculateAll
  | save (path : String)
deriving DecidableEq, Repr

/-- What the arguments ask for. -/
structure Options where
  file : Option String := none
  settingsFile : Option String := none
  mode : Option RecalculationMode := none
  operations : List Operation := []
deriving DecidableEq, Repr

/-- What to do: to show how the program is used, or to work. -/
inductive Request where
  | help
  | work (options : Options)
deriving DecidableEq, Repr

/-- The options by what they are for. -/
inductive Switch where
  | help
  | set
  | copy
  | fill
  | evaluate
  | print
  | recalculateAll
  | output
  | mode
  | settings
deriving DecidableEq, Repr

namespace Switch

/-- The long name of an option. -/
def name : Switch → String
  | help => "--help"
  | set => "--set"
  | copy => "--copy"
  | fill => "--fill"
  | evaluate => "--eval"
  | print => "--print"
  | recalculateAll => "--recalc-all"
  | output => "--output"
  | mode => "--recalc"
  | settings => "--config"

/-- The short name of an option that has one. -/
def shortName? : Switch → Option String
  | help => some "-h"
  | set => some "-s"
  | evaluate => some "-e"
  | print => some "-p"
  | output => some "-o"
  | copy | fill | recalculateAll | mode | settings => none

/-- All options. -/
def all : List Switch :=
  [help, set, copy, fill, evaluate, print, recalculateAll, output, mode, settings]

/-- The option that an argument names. -/
def ofArgument? (argument : String) : Option Switch :=
  all.find? fun switch => argument = switch.name || switch.shortName? = some argument

theorem ofArgument?_name (switch : Switch) : ofArgument? switch.name = some switch := by
  cases switch <;> rfl

end Switch

/-- Faults of a command line. -/
inductive UsageError where
  | missingValue (switch : Switch)
  | notAssignment (text : String)
  | unknownMode (text : String)
  | unknownOption (text : String)
  | secondFile (text : String)
deriving DecidableEq, Repr

/-- The wording of a fault. -/
def UsageError.message : UsageError → String
  | missingValue switch => switch.name ++ " requires a value"
  | notAssignment text => "--set expects CELL=INPUT, got " ++ text
  | unknownMode text => RecalculationMode.unknownMessage text
  | unknownOption text => "Unknown option: " ++ text
  | secondFile text => "Unexpected argument: " ++ text

/-- The operation that types a text into a cell, written with an equals sign
between them; blanks around the cell do not count. -/
def Operation.ofAssignment? (text : String) : Option Operation :=
  (Text.cutAtFirst? '=' text.toList).map fun (cell, input) =>
    .set (String.ofList (Text.trim cell)) (String.ofList input)

/-- Whether an argument has the form of an option: a hyphen and more. -/
def isOption (argument : String) : Bool :=
  match argument.toList with
  | '-' :: _ :: _ => true
  | _ => false

namespace Options

/-- Options with one more operation. -/
def add (options : Options) (operation : Operation) : Options :=
  { options with operations := options.operations ++ [operation] }

/-- Reads arguments on top of the options given by those before them. -/
def read (options : Options) : List String → Except UsageError Request
  | [] => .ok (.work options)
  | argument :: rest =>
    match Switch.ofArgument? argument, rest with
    | some .help, _ => .ok .help
    | some .print, rest => read (options.add .print) rest
    | some .recalculateAll, rest => read (options.add .recalculateAll) rest
    | some .set, assignment :: rest =>
      match Operation.ofAssignment? assignment with
      | some operation => read (options.add operation) rest
      | none => .error (.notAssignment assignment)
    | some .copy, source :: target :: rest => read (options.add (.copy source target)) rest
    | some .fill, source :: range :: rest => read (options.add (.fill source range)) rest
    | some .evaluate, formula :: rest => read (options.add (.evaluate formula)) rest
    | some .output, path :: rest => read (options.add (.save path)) rest
    | some .mode, name :: rest =>
      match RecalculationMode.ofName? name with
      | some mode => read { options with mode := some mode } rest
      | none => .error (.unknownMode name)
    | some .settings, path :: rest => read { options with settingsFile := some path } rest
    | some switch, _ => .error (.missingValue switch)
    | none, rest =>
      if isOption argument then .error (.unknownOption argument)
      else if options.file.isSome then .error (.secondFile argument)
      else read { options with file := some argument } rest

end Options

/-- What a list of arguments asks for. -/
def Request.ofArguments (arguments : List String) : Except UsageError Request :=
  Options.read {} arguments

end CommandLine
end Worksheet
