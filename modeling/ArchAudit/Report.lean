import ArchAudit.Finding

/-!
# Reports

A report holds the findings of a run in the order in which they were made, what was scanned, and
how many findings there are of each severity.
-/

namespace ArchAudit

/-- The version of the program. -/
def version : String :=
  "0.1.0"

/-- What was scanned. -/
structure Metadata where
  version : String
  /-- Seconds since the start of 1970, as text. -/
  timestamp : String
  scannedPath : String
  filesScanned : Nat
deriving DecidableEq, Repr

/-- The number of findings of each severity. -/
structure Summary where
  high : Nat
  medium : Nat
  low : Nat
  info : Nat
  total : Nat
deriving DecidableEq, Repr

namespace Summary

/-- Counts findings by severity. -/
def ofFindings (findings : List Finding) : Summary where
  high := findings.countP fun finding => finding.severity = .high
  medium := findings.countP fun finding => finding.severity = .medium
  low := findings.countP fun finding => finding.severity = .low
  info := findings.countP fun finding => finding.severity = .info
  total := findings.length

end Summary

/-- The outcome of a run. -/
structure Report where
  metadata : Metadata
  findings : List Finding
  summary : Summary
deriving DecidableEq, Repr

namespace Report

/-- The report on some findings. -/
def ofFindings
    (timestamp : String)
    (findings : List Finding)
    (scannedPath : String)
    (filesScanned : Nat) :
    Report where
  metadata := ⟨ArchAudit.version, timestamp, scannedPath, filesScanned⟩
  findings := findings
  summary := .ofFindings findings

end Report

end ArchAudit
