import ArchAudit.Classifier.Table
import ArchAudit.Continuation
import ArchAudit.Finding
import ArchAudit.Source

/-!
# Scanning one file

A scan takes in the physical lines of a file one by one, joins them into statements, applies the
classifier table to every statement that is not blank, and draws the verdict on the whole file when
the input ends.

A finding about a statement is reported one line past the line that completes the statement, a
finding about the whole file one line past the last.
-/

namespace ArchAudit

/-- A scan in progress. -/
structure Scan where
  pending : Continuation
  evidence : Evidence
  /-- The number of physical lines so far. -/
  lastLine : Nat
  /-- The findings so far, first one first. -/
  findings : List Finding
deriving DecidableEq, Repr

namespace Scan

/-- A scan that has seen nothing. -/
def start : Scan :=
  ⟨.closed, .empty, 0, []⟩

/-- The finding for an issue of a statement. -/
def lineFinding (filePath : String) (line : LogicalLine) (issue : Issue) : Finding :=
  .ofIssue issue filePath (line.endLine + 1) line.span (some line.snippet)

/-- The statement to show for an issue of the whole file. -/
def verdictSnippet : Issue → Option String
  | .otherArchCondition condition => some (Text.trimmed condition)
  | _ => none

/-- The finding for an issue of the whole file. -/
def verdictFinding (filePath : String) (lastLine : Nat) (issue : Issue) : Finding :=
  .ofIssue issue filePath (lastLine + 1) "end of file" (verdictSnippet issue)

/-- Applies the table to a statement. -/
def absorb
    (table : Table)
    (filePath : String)
    (scan : Scan)
    (line : LogicalLine) :
    Scan :=
  if line.isBlank then scan
  else
    { scan with
      evidence := (table.classify line scan.evidence).1
      findings :=
        scan.findings
          ++ (table.classify line scan.evidence).2.map (lineFinding filePath line) }

/-- Applies the table to a statement, if there is one. -/
def absorb?
    (table : Table)
    (filePath : String)
    (scan : Scan) :
    Option LogicalLine → Scan
  | some line => scan.absorb table filePath line
  | none => scan

/-- Takes in one physical line. -/
def feed
    (table : Table)
    (filePath : String)
    (scan : Scan)
    (raw : String) :
    Scan :=
  let step := scan.pending.feed (scan.lastLine + 1) raw
  absorb? table filePath { scan with pending := step.1, lastLine := scan.lastLine + 1 } step.2

/-- Ends the input: completes an open statement and draws the verdict. -/
def finish
    (table : Table)
    (filePath : String)
    (scan : Scan) :
    List Finding :=
  let step := scan.pending.finish scan.lastLine
  let last := absorb? table filePath { scan with pending := step.1 } step.2
  last.findings ++ last.evidence.verdict.map (verdictFinding filePath last.lastLine)

/-- The scan of some physical lines, before the input ends. -/
def run (table : Table) (filePath : String) (lines : List String) : Scan :=
  lines.foldl (feed table filePath) start

/-- The findings of a file given by its physical lines. -/
def ofLines (table : Table) (filePath : String) (lines : List String) : List Finding :=
  (run table filePath lines).finish table filePath

/-- The findings of a file given by its text. -/
def ofText (table : Table) (filePath : String) (text : String) : List Finding :=
  ofLines table filePath (Text.lines text)

/-- The findings of a file given by a source, and the failure of the read.  After a failure there is
no verdict, and an open statement is dropped. -/
def ofSource
    (table : Table)
    (filePath : String)
    (source : Source) :
    List Finding × Option FileError :=
  let lines := source.lines.map PhysicalLine.text
  match source.failure with
  | none => (ofLines table filePath lines, none)
  | some failure => ((run table filePath lines).findings, some failure)

end Scan

end ArchAudit
