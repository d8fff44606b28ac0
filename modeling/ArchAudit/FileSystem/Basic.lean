import ArchAudit.FileSystem.Directory
import ArchAudit.FileSystem.Path

/-!
# The file system

The whole tree of directories and the directory in which the program works.  A path is followed
piece by piece from the root or from the working directory, and every piece is looked up in a
directory; so a path behind a file leads nowhere, even if the piece is empty.
-/

namespace ArchAudit

/-- All files, and the directory in which the program works. -/
structure FileSystem where
  root : Directory
  workingDirectory : List String
deriving DecidableEq, Repr

namespace FileSystem

/-- The most bytes that a name may have. -/
def nameLimit : Nat :=
  255

/-- The most bytes that a path may have. -/
def pathLimit : Nat :=
  4095

/-- Why a path cannot be looked up at all: it holds a NUL character or is too long. -/
def pathFault? (path : String) : Option FileError :=
  if Char.ofNat 0 ∈ path.toList then some .nulInPath
  else if pathLimit < path.utf8ByteSize then some .nameTooLong
  else none

/-- Follows one piece of a path from the place with the given names. -/
def follow (root : Directory) (names : List String) (piece : String) :
    Except FileError (List String) :=
  match root.at? names with
  | none => .error .notFound
  | some (.file _) => .error .notDirectory
  | some (.folder entries) =>
    if piece = "" ∨ piece = "." then .ok names
    else if piece = ".." then .ok names.dropLast
    else if nameLimit < piece.utf8ByteSize then .error .nameTooLong
    else if (entries.entry? piece).isSome then .ok (names ++ [piece])
    else .error .notFound

/-- Follows some pieces of a path. -/
def followAll (root : Directory) : List String → List String → Except FileError (List String)
  | names, [] => .ok names
  | names, piece :: pieces =>
    match follow root names piece with
    | .error failure => .error failure
    | .ok names => followAll root names pieces

/-- The place at which a path starts. -/
def origin (system : FileSystem) (path : String) : List String :=
  if Path.isAbsolute path then [] else system.workingDirectory

/-- The names from the root to the place that a path leads to. -/
def resolve (system : FileSystem) (path : String) : Except FileError (List String) :=
  match pathFault? path with
  | some fault => .error fault
  | none => followAll system.root (system.origin path) (Path.pieces path)

/-- The entry that a path leads to. -/
def lookup (system : FileSystem) (path : String) : Except FileError Entry :=
  match system.resolve path with
  | .error failure => .error failure
  | .ok names =>
    match system.root.at? names with
    | some entry => .ok entry
    | none => .error .notFound

/-- Whether a path leads to a file. -/
def isFile (system : FileSystem) (path : String) : Bool :=
  match system.lookup path with
  | .ok (.file _) => true
  | _ => false

/-- Opens what a path leads to.  A directory can be opened too, but reading it fails at once. -/
def read (system : FileSystem) (path : String) : Except FileError Source :=
  match system.lookup path with
  | .error failure => .error failure
  | .ok (.folder _) => .ok ⟨[], some .isDirectory⟩
  | .ok (.file content) => .ok content

/-- Reads the file that a path leads to as text. -/
def readText (system : FileSystem) (path : String) : Except FileError String :=
  match system.read path with
  | .error failure => .error failure
  | .ok source => source.text

/-- The directory that a path leads to. -/
def directory? (system : FileSystem) (path : String) : Option Directory :=
  match system.lookup path with
  | .ok (.folder entries) => some entries
  | _ => none

/-- Whether a piece of a path names an entry of its own. -/
def isName (piece : String) : Bool :=
  piece ≠ "" && piece ≠ "." && piece ≠ ".."

/-- Creates the file that the pieces of a path lead to, or replaces its content.  The directory
above it has to be there, and behind a slash at the end only a directory can be meant. -/
def writeAt
    (system : FileSystem)
    (origin pieces : List String)
    (name : String)
    (slashed : Bool)
    (content : Source) :
    Except FileError FileSystem :=
  match followAll system.root origin pieces with
  | .error failure => .error failure
  | .ok names =>
    match system.root.at? names with
    | none => .error .notFound
    | some (.file _) => .error .notDirectory
    | some (.folder entries) =>
      if slashed then .error .isDirectory
      else if nameLimit < name.utf8ByteSize then .error .nameTooLong
      else
        match entries.entry? name with
        | some (.folder _) => .error .isDirectory
        | _ => .ok { system with root := Directory.putFile content name names system.root }

/-- Creates the file that a path leads to, or replaces its content.  A path that ends in dots can
only mean a directory. -/
def write (system : FileSystem) (path : String) (content : Source) :
    Except FileError FileSystem :=
  let slashed := (Path.pieces path).getLast? = some ""
  let pieces := ((Path.pieces path).reverse.dropWhile fun piece => piece = "").reverse
  match pathFault? path, pieces.getLast? with
  | some fault, _ => .error fault
  | none, none => .error .isDirectory
  | none, some name =>
    if isName name then
      writeAt system (system.origin path) pieces.dropLast name slashed content
    else
      match system.resolve path with
      | .error failure => .error failure
      | .ok _ => .error .isDirectory

/-- The file system with one more file below the working directory.  Directories on the way are
created, and a path that ends in a slash creates a directory only. -/
def place (system : FileSystem) (path : String) (bytes : List UInt8) : FileSystem :=
  let names := system.workingDirectory ++ Path.names path
  match names.getLast? with
  | none => system
  | some name =>
    if (Path.pieces path).getLast? = some "" then
      { system with root := Directory.putFolder names system.root }
    else
      { system with
        root := Directory.putFile (.complete bytes) name names.dropLast system.root }

/-- An empty directory to work in. -/
def fresh (name : String) : FileSystem :=
  ⟨.folder name .empty .empty, [name]⟩

end FileSystem

end ArchAudit
