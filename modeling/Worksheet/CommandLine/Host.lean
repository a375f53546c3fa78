import Worksheet.Calendar.Instant

namespace Worksheet
namespace CommandLine

/-!
What the command line needs of the system around it: files by path, a clock,
and two streams of text.  The program is written for any such host, so it can
run on a real system and, as a pure function, on a tree of files.
-/

/-- A failure of the system to do something with a file: its wording, and its
number if the system has one for it. -/
structure FileError where
  text : String
  code : Option Nat := none
deriving DecidableEq, Repr

namespace FileError

/-- The full wording of a failure. -/
def message (error : FileError) : String :=
  match error.code with
  | some code => error.text ++ " (os error " ++ Numeral.text code ++ ")"
  | none => error.text

def notFound : FileError := ⟨"No such file or directory", some 2⟩

def notDirectory : FileError := ⟨"Not a directory", some 20⟩

def isDirectory : FileError := ⟨"Is a directory", some 21⟩

def nameTooLong : FileError := ⟨"File name too long", some 36⟩

def notUnicode : FileError := ⟨"stream did not contain valid UTF-8", none⟩

end FileError

/-- The actions of a system that the command line uses. -/
structure Host (m : Type → Type) where
  /-- Whether a path leads to anything. -/
  isPresent (path : String) : m Bool
  /-- The number of bytes behind a path. -/
  size (path : String) : m (Except FileError Nat)
  /-- The text of a file. -/
  read (path : String) : m (Except FileError String)
  /-- Makes a text the content of a file, new or not. -/
  write (path text : String) : m (Except FileError Unit)
  /-- The present time. -/
  now : m Instant
  /-- Writes to the stream of results. -/
  print (text : String) : m Unit
  /-- Writes to the stream of messages. -/
  report (text : String) : m Unit
  /-- Where the settings are kept when no file is named, if the user has a
  place for them. -/
  settingsFile? : m (Option String)

end CommandLine
end Worksheet
