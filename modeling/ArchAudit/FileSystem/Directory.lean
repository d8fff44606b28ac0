import ArchAudit.Source

/-!
# Directories

A directory is a sequence of named entries, each a file or another directory.
-/

namespace ArchAudit

/-- The entries of a directory. -/
inductive Directory where
  | empty
  | file (name : String) (content : Source) (others : Directory)
  | folder (name : String) (entries : Directory) (others : Directory)
deriving DecidableEq, Repr

/-- What a name in a directory stands for. -/
inductive Entry where
  | file (content : Source)
  | folder (entries : Directory)
deriving DecidableEq, Repr

namespace Directory

/-- The entry with a given name. -/
def entry? : Directory → String → Option Entry
  | empty, _ => none
  | file name content others, wanted =>
    if name = wanted then some (.file content) else others.entry? wanted
  | folder name entries others, wanted =>
    if name = wanted then some (.folder entries) else others.entry? wanted

/-- The entry that a list of names leads to. -/
def at? : Directory → List String → Option Entry
  | directory, [] => some (.folder directory)
  | directory, name :: names =>
    match directory.entry? name with
    | none => none
    | some (.file content) => if names.isEmpty then some (.file content) else none
    | some (.folder entries) => entries.at? names

/-- Whether there is a file with a given name. -/
def holdsFile (directory : Directory) (name : String) : Bool :=
  match directory.entry? name with
  | some (.file _) => true
  | _ => false

/-- Puts a file under a name, in the place of an entry of that name. -/
def setFile : Directory → String → Source → Directory
  | empty, wanted, source => file wanted source empty
  | file name content others, wanted, source =>
    if name = wanted then file name source others
    else file name content (others.setFile wanted source)
  | folder name entries others, wanted, source =>
    if name = wanted then file name source others
    else folder name entries (others.setFile wanted source)

/-- Changes the directory of a given name, which is created if there is none. -/
def changeFolder (change : Directory → Directory) : Directory → String → Directory
  | empty, wanted => folder wanted (change empty) empty
  | file name content others, wanted =>
    if name = wanted then folder name (change empty) others
    else file name content (changeFolder change others wanted)
  | folder name entries others, wanted =>
    if name = wanted then folder name (change entries) others
    else folder name entries (changeFolder change others wanted)

/-- Puts a file under a list of names; directories on the way are created. -/
def putFile (source : Source) (name : String) : List String → Directory → Directory
  | [], directory => directory.setFile name source
  | folderName :: names, directory => changeFolder (putFile source name names) directory folderName

/-- Makes sure that there is a directory under a list of names. -/
def putFolder : List String → Directory → Directory
  | [], directory => directory
  | folderName :: names, directory => changeFolder (putFolder names) directory folderName

end Directory

end ArchAudit
