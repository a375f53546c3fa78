import Std.Time.DateTime.Timestamp
import Worksheet.CommandLine.Run

namespace Worksheet
namespace System

/-!
The command line on a real system.  Its files, clock, streams and variables
make a host; the program itself is the same for every host.
-/

open CommandLine

/-- The number of a failure, which some calls give negated. -/
def errorNumber (code : UInt32) : Nat :=
  if code < 2147483648 then code.toNat else 4294967296 - code.toNat

/-- A failure of a system call in the terms of the command line. -/
def fileError : IO.Error → FileError
  | .noFileOrDirectory .. => .notFound
  | .interrupted _ code text
  | .alreadyExists _ code text
  | .inappropriateType _ code text
  | .invalidArgument _ code text
  | .noSuchThing _ code text
  | .permissionDenied _ code text
  | .resourceExhausted _ code text => ⟨text, some (errorNumber code)⟩
  | .hardwareFault code text
  | .illegalOperation code text
  | .otherError code text
  | .protocolError code text
  | .resourceBusy code text
  | .resourceVanished code text
  | .timeExpired code text
  | .unsatisfiedConstraints code text
  | .unsupportedOperation code text => ⟨text, some (errorNumber code)⟩
  | .unexpectedEof => ⟨"failed to fill whole buffer", none⟩
  | .userError text => ⟨text, none⟩

/-- The outcome of an action that may fail. -/
def attempt (action : IO α) : IO (Except FileError α) := do
  match ← action.toBaseIO with
  | .ok result => return .ok result
  | .error error => return .error (fileError error)

/-- The number of bytes behind a path. -/
def sizeOf (path : String) : IO Nat := do
  return (← (IO.FS.DirEntry.mk path "").root.metadata).byteSize.toNat

/-- The text of a file. -/
def readText (path : String) : IO (Except FileError String) := do
  match ← attempt (IO.FS.readBinFile path) with
  | .error error => return .error error
  | .ok bytes =>
    match String.fromUTF8? bytes with
    | some text => return .ok text
    | none => return .error .notUnicode

/-- The present time. -/
def now : IO Instant := do
  let nanoseconds := (← Std.Time.Timestamp.now).toNanosecondsSinceUnixEpoch.toInt
  let second := (Instant.nanosPerSecond : Int)
  return .ofUnixTime (nanoseconds / second) (nanoseconds % second).toNat

/-- Where the settings are kept: below the user's directory for settings,
which is `.config` in the home directory unless a variable names another. -/
def settingsFile? : IO (Option String) := do
  let named := (← IO.getEnv "XDG_CONFIG_HOME").filter (·.startsWith "/")
  let home := ((← IO.getEnv "HOME").filter (· ≠ "")).map (· ++ "/.config")
  return (named <|> home).map (· ++ "/tabula/config.toml")

/-- The system as a host. -/
def host : Host IO where
  isPresent path := do return (← attempt (sizeOf path)).isOk
  size path := attempt (sizeOf path)
  read path := readText path
  write path text := attempt (IO.FS.writeFile path text)
  now := now
  print text := IO.print text
  report text := IO.eprint text
  settingsFile? := settingsFile?

end System
end Worksheet

/-- Runs the command line with the arguments of the program. -/
def main (arguments : List String) : IO UInt32 :=
  Worksheet.CommandLine.run Worksheet.System.host arguments
