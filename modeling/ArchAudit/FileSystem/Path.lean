import ArchAudit.Text.Split

/-!
# Paths

A path is a text in which slashes separate the names of directories.  Empty names and single dots
mean nothing.
-/

namespace ArchAudit.Path

/-- What stands between the slashes of a path. -/
def pieces (path : String) : List String :=
  Text.splitText '/' path

/-- Whether a path starts at the root. -/
def isAbsolute (path : String) : Bool :=
  path.toList.head? = some '/'

/-- The names of a path; empty names and single dots are left out. -/
def names (path : String) : List String :=
  (pieces path).filter fun piece => piece ≠ "" && piece ≠ "."

/-- The name of the file that a path leads to.  A path that ends in two dots has none. -/
def fileName? (path : String) : Option String :=
  match (names path).getLast? with
  | some name => if name = ".." then none else some name
  | none => none

/-- A path made of names. -/
def ofNames (names : List String) : String :=
  String.intercalate "/" names

/-- The path below a directory. -/
def below (directory : String) (names : List String) : String :=
  if directory.toList.getLast? = some '/' then directory ++ ofNames names
  else directory ++ "/" ++ ofNames names

/-- The order of names: character by character, by code points. -/
def compareNames : List Char → List Char → Ordering
  | [], [] => .eq
  | [], _ :: _ => .lt
  | _ :: _, [] => .gt
  | a :: as, b :: bs =>
    if a.toNat < b.toNat then .lt else if b.toNat < a.toNat then .gt else compareNames as bs

/-- The order of paths: name by name. -/
def le : List String → List String → Bool
  | [], _ => true
  | _ :: _, [] => false
  | a :: as, b :: bs =>
    match compareNames a.toList b.toList with
    | .lt => true
    | .gt => false
    | .eq => le as bs

end ArchAudit.Path
