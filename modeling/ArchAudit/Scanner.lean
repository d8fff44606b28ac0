import ArchAudit.Scan
import ArchAudit.FileSystem.Basic

/-!
# Scanners

A scanner knows which files it handles and how to scan one.  The findings of a file count only if
the file was read to its end.
-/

namespace ArchAudit

/-- A kind of scanner. -/
structure Scanner where
  name : String
  /-- Whether the scanner handles the file that a path leads to. -/
  accepts : String → Bool
  /-- The findings in a file that is shown under the given path, and the failure of the read. -/
  scan : String → Source → List Finding × Option FileError

namespace Scanner

/-- The name of the build scripts that are scanned. -/
def scriptName : String :=
  "CMakeLists.txt"

/-- The scanner for build scripts that uses a given table. -/
def cmake (table : Table) : Scanner where
  name := "cmake"
  accepts := fun path => Path.fileName? path = some scriptName
  scan := Scan.ofSource table

/-- All scanners, made with one table. -/
def all (table : Table) : List Scanner :=
  [cmake table]

/-- The first scanner that handles a file. -/
def find? (table : Table) (path : String) : Option Scanner :=
  (all table).find? fun scanner => scanner.accepts path

/-- Scans the file at a path.  Its findings join the given ones only if it was read to its end. -/
def scanFile
    (scanner : Scanner)
    (system : FileSystem)
    (path shownPath : String)
    (findings : List Finding) :
    List Finding × Option FileError :=
  match system.read path with
  | .error failure => (findings, some failure)
  | .ok source =>
    match scanner.scan shownPath source with
    | (_, some failure) => (findings, some failure)
    | (found, none) => (findings ++ found, none)

end Scanner

end ArchAudit
