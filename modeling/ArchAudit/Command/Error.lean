import ArchAudit.Classifier.Table
import ArchAudit.Glob
import ArchAudit.Json.Failure
import ArchAudit.Source

/-!
# Errors of a run

Why a run breaks off.  An error has a message of its own and the message of its cause.
-/

namespace ArchAudit

/-- Why a run breaks off. -/
inductive RunError where
  /-- A file could not be read. -/
  | read (path : String) (cause : FileError)
  /-- A vocabulary file is malformed; the reason carries its place in the file. -/
  | vocabulary (path reason : String)
  /-- The words of a row do not fit into one pattern. -/
  | pattern (cause : PatternTooLarge)
  /-- A pattern of paths to ignore is malformed. -/
  | ignore (pattern : String) (cause : GlobError)
  /-- The report could not be written. -/
  | write (path : String) (cause : FileError)
deriving DecidableEq, Repr

namespace RunError

/-- The cause in words. -/
def cause : RunError → String
  | read _ cause => cause.message
  | vocabulary _ reason => reason
  | pattern cause => cause.reason
  | ignore _ cause => cause.message
  | write _ cause => cause.message

/-- The error in words. -/
def message : RunError → String
  | read path cause => "failed to read " ++ path ++ ": " ++ cause.message
  | vocabulary path reason => "malformed vocabulary file " ++ path ++ ": " ++ reason
  | pattern cause =>
    "invalid pattern for classifier " ++ cause.row.name ++ ": " ++ cause.reason
  | ignore glob _ => "invalid --ignore pattern '" ++ glob ++ "'"
  | write path _ => "failed to write report to " ++ path

/-- The error and its cause as they are shown to the user. -/
def render (error : RunError) : String :=
  "Error: " ++ error.message ++ "\n\nCaused by:\n    " ++ error.cause ++ "\n"

end RunError

end ArchAudit
