import Worksheet.CommandLine.Run
import Worksheet.Text.Split

namespace Worksheet
namespace CommandLine

/-!
Trees of files, and runs of the command line on them.  A directory is there
when it was made, or when a file or another directory lies below it.  Paths
are followed name by name, so a path leads nowhere if it passes through a file
or through a directory that is not there.
-/

/-- What a file holds. -/
inductive Content where
  | text (characters : String)
  /-- So many bytes, all zero. -/
  | zeros (bytes : Nat)
deriving DecidableEq, Repr

/-- The number of bytes of a content. -/
def Content.size : Content → Nat
  | .text characters => characters.utf8ByteSize
  | .zeros bytes => bytes

/-- The text of a content. -/
def Content.toText : Content → String
  | .text characters => characters
  | .zeros bytes => "".pushn '\x00' bytes

/-- A place in a tree: the names that lead to it from the root. -/
abbrev Location := List String

/-- What is found at a location. -/
inductive Entry where
  | file (content : Content)
  | directory
  | nothing
deriving DecidableEq, Repr

/-- Files at their locations, directories that were made, and the directory in
which relative paths start. -/
structure FileTree where
  workingDirectory : Location
  directories : List Location := []
  files : List (Location × Content) := []
deriving DecidableEq, Repr

namespace FileTree

/-- The content of the file at a location. -/
def content? (tree : FileTree) (location : Location) : Option Content :=
  (tree.files.find? fun (place, _) => place = location).map Prod.snd

/-- Whether a directory or a file lies at or below a location. -/
def isDirectory (tree : FileTree) (location : Location) : Bool :=
  location.isPrefixOf tree.workingDirectory ||
    tree.directories.any location.isPrefixOf ||
    tree.files.any fun (place, _) => location.isPrefixOf place

/-- What is found at a location. -/
def entry (tree : FileTree) (location : Location) : Entry :=
  match tree.content? location with
  | some content => .file content
  | none => if tree.isDirectory location then .directory else .nothing

/-- A tree with a file at a location, new or in the place of another. -/
def insert (tree : FileTree) (location : Location) (content : Content) : FileTree :=
  { tree with
    files := (location, content) :: tree.files.filter fun (place, _) => place ≠ location }

/-- A tree with a directory at a location. -/
def makeDirectory (tree : FileTree) (location : Location) : FileTree :=
  { tree with directories := location :: tree.directories }

/-! ## Paths -/

/-- The most bytes that a name may have. -/
def maxNameBytes : Nat := 255

/-- The most bytes that a path may have. -/
def maxPathBytes : Nat := 4095

/-- Whether a text can be followed as a path at all. -/
def checkPath (path : String) : Except FileError Unit :=
  if path = "" then .error .notFound
  else if maxPathBytes < path.utf8ByteSize then .error .nameTooLong
  else .ok ()

/-- Where one name leads from a directory. -/
def step (location : Location) (name : String) : Except FileError Location :=
  if name = "" ∨ name = "." then .ok location
  else if name = ".." then .ok location.dropLast
  else if maxNameBytes < name.utf8ByteSize then .error .nameTooLong
  else .ok (location ++ [name])

/-- The directory to which names lead from another. -/
def enter (tree : FileTree) (location : Location) : List String → Except FileError Location
  | [] => .ok location
  | name :: rest =>
    match step location name with
    | .error error => .error error
    | .ok inner =>
      match tree.entry inner with
      | .directory => enter tree inner rest
      | .file _ => .error .notDirectory
      | .nothing => .error .notFound

/-- The names of a path. -/
def names (path : String) : List String :=
  (Text.split '/' path.toList).map String.ofList

/-- The last name of a path. -/
def lastName (path : String) : String :=
  (names path).getLast?.getD ""

/-- The directory in which a path starts. -/
def origin (tree : FileTree) (path : String) : Location :=
  if path.toList.head? = some '/' then [] else tree.workingDirectory

/-- The directory to which all names of a path but the last lead. -/
def parent (tree : FileTree) (path : String) : Except FileError Location :=
  tree.enter (tree.origin path) (names path).dropLast

/-- Where a path leads, whether there is something or not. -/
def locate (tree : FileTree) (path : String) : Except FileError Location := do
  checkPath path
  step (← tree.parent path) (lastName path)

/-- What is found behind a path. -/
def find (tree : FileTree) (path : String) : Except FileError Entry := do
  let location ← tree.locate path
  match tree.entry location with
  | .nothing => throw .notFound
  | found => return found

/-- Whether a path ends with a slash, and so must be a directory. -/
def namesDirectory (path : String) : Bool :=
  path.toList.getLast? = some '/'

/-- A path without the slashes it ends with. -/
def withoutSlashes (path : String) : String :=
  String.ofList (path.toList.reverse.dropWhile (· = '/')).reverse

/-! ## Actions -/

/-- The number of bytes behind a path; a directory counts as empty. -/
def size (tree : FileTree) (path : String) : Except FileError Nat :=
  match tree.find path with
  | .ok (.file content) => .ok content.size
  | .ok _ => .ok 0
  | .error error => .error error

/-- The text of the file behind a path. -/
def read (tree : FileTree) (path : String) : Except FileError String :=
  match tree.find path with
  | .ok (.file content) => .ok content.toText
  | .ok _ => .error .isDirectory
  | .error error => .error error

/-- The tree after a text was written to a file.  The last name of a path
that must be a directory is not looked at. -/
def write (tree : FileTree) (path text : String) : Except FileError FileTree := do
  checkPath path
  if namesDirectory path then
    let _ ← tree.parent (withoutSlashes path)
    throw .isDirectory
  else
    let location ← tree.locate path
    if tree.entry location = .directory then throw .isDirectory
    else return tree.insert location (.text text)

/-- Goes from a directory where names lead, and makes the directories that are
missing on the way. -/
def makeWay (tree : FileTree) (location : Location) :
    List String → Except FileError (FileTree × Location)
  | [] => .ok (tree, location)
  | name :: rest =>
    match step location name with
    | .error error => .error error
    | .ok inner =>
      match tree.entry inner with
      | .directory => makeWay tree inner rest
      | .file _ => .error .notDirectory
      | .nothing => makeWay (tree.makeDirectory inner) inner rest

/-- A tree with a file added behind a path, whatever directories this
needs. -/
def put (tree : FileTree) (path : String) (content : Content) : Except FileError FileTree := do
  let (tree, directory) ← tree.makeWay (tree.origin path) (names path).dropLast
  return tree.insert (← step directory (lastName path)) content

end FileTree

/-! ## Runs -/

/-- A run so far: the files, and what was written to the two streams. -/
structure Session where
  tree : FileTree
  printed : String := ""
  reported : String := ""
deriving DecidableEq, Repr

namespace Session

/-- The host whose files are those of the session, at a fixed time. -/
def host (now : Instant) (settingsFile : Option String) : Host (StateM Session) where
  isPresent path := do return ((← get).tree.find path).isOk
  size path := do return (← get).tree.size path
  read path := do return (← get).tree.read path
  write path text := do
    match (← get).tree.write path text with
    | .ok tree =>
      modify fun session => { session with tree }
      return .ok ()
    | .error error => return .error error
  now := return now
  print text := modify fun session => { session with printed := session.printed ++ text }
  report text := modify fun session => { session with reported := session.reported ++ text }
  settingsFile? := return settingsFile

/-- The exit code of a run on a tree of files, and what the run leaves. -/
def ofArguments (now : Instant) (settingsFile : Option String) (tree : FileTree)
    (arguments : List String) : UInt32 × Session :=
  (run (host now settingsFile) arguments).run { tree }

end Session

end CommandLine
end Worksheet
