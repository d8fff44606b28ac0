import ArchAudit.FileSystem.Basic

/-!
# Walking a directory

Collects the wanted files below a directory.  Version-control data and build trees, which hold a
cache file, are not entered; the directory at which the walk starts always is.
-/

namespace ArchAudit

namespace Directory

/-- The file that marks a build tree. -/
def cacheName : String :=
  "CMakeCache.txt"

/-- Whether a directory below the start is left out. -/
def isPruned (name : String) (entries : Directory) : Bool :=
  name = ".git" || entries.holdsFile cacheName

/-- The names that lead to the wanted files, in the order of the entries. -/
def wantedFiles (wanted : String → Bool) (recursive : Bool) : Directory → List (List String)
  | empty => []
  | file name _ others =>
    (if wanted name then [[name]] else []) ++ wantedFiles wanted recursive others
  | folder name entries others =>
    (if recursive && !isPruned name entries then
        (wantedFiles wanted recursive entries).map (name :: ·)
      else [])
      ++ wantedFiles wanted recursive others

/-- The names that lead to the wanted files, without the ignored ones, in the order of paths. -/
def collect
    (wanted : String → Bool)
    (recursive : Bool)
    (ignored : String → Bool)
    (directory : Directory) :
    List (List String) :=
  ((wantedFiles wanted recursive directory).filter fun names =>
    !ignored (Path.ofNames names)).mergeSort Path.le

end Directory

end ArchAudit
