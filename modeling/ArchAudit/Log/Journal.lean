import ArchAudit.Log.Basic
import ArchAudit.Scan

/-!
# The journal of a scan

What a scan tells about itself: which lines were malformed, which lines were joined, which rows
matched, and how many findings there were.  The journal follows the same steps as the scan and
leaves its findings alone.
-/

namespace ArchAudit.Journal

/-- The message about a row without words. -/
def disabledRow (row : Row) : LogEntry :=
  ⟨.debug, Log.classifierTarget, row.name ++ ": empty vocabulary, classifier disabled"⟩

/-- The messages of making a table: rows without words, up to the first row that is too large. -/
def compile (vocabulary : Vocabulary) : List Row → List LogEntry
  | [] => []
  | row :: rows =>
    match Table.compileRow vocabulary row with
    | .error _ => []
    | .ok none => disabledRow row :: compile vocabulary rows
    | .ok (some _) => compile vocabulary rows

/-- The message about a joined statement. -/
def foldedLine (line : LogicalLine) : LogEntry :=
  ⟨.trace, Log.continuationTarget,
    "folded lines " ++ toString line.startLine ++ "-" ++ toString line.endLine ++ ": "
      ++ line.text⟩

/-- The messages about the rows that match a statement. -/
def classify (table : Table) (line : LogicalLine) : List LogEntry :=
  if line.isBlank then []
  else
    (table.filter fun classifier => (classifier.signal? line.text).isSome).map fun classifier =>
      ⟨.debug, Log.classifierTarget,
        classifier.row.name ++ " matched " ++ line.span ++ ": " ++ line.snippet⟩

/-- The messages about a statement, if one is complete: that it was joined, if a statement was open
before, and the rows that match it. -/
def statement (table : Table) (pending : Continuation) : Option LogicalLine → List LogEntry
  | none => []
  | some line =>
    (if pending.startLine?.isSome then [foldedLine line] else []) ++ classify table line

/-- The messages about the physical lines from the given state on, up to the end of the file. -/
def lines
    (table : Table)
    (filePath : String)
    (pending : Continuation)
    (lastLine : Nat) :
    List PhysicalLine → List LogEntry
  | [] =>
    (match pending.startLine? with
      | some startLine =>
        [⟨.trace, Log.continuationTarget,
          "flushing continuation opened at line " ++ toString startLine ++ " at end of input"⟩]
      | none => [])
      ++ statement table pending (pending.finish lastLine).2
  | line :: others =>
    (if line.malformed then
        [⟨.debug, Log.scannerTarget,
          filePath ++ ": invalid UTF-8 on line " ++ toString (lastLine + 1) ++ ", replaced"⟩]
      else [])
      ++ statement table pending (pending.feed (lastLine + 1) line.text).2
      ++ lines table filePath (pending.feed (lastLine + 1) line.text).1 (lastLine + 1) others

/-- The messages of the scan of a file that is read to its end. -/
def file (table : Table) (filePath : String) (source : Source) : List LogEntry :=
  [⟨.debug, Log.scannerTarget, "scanning " ++ filePath⟩]
    ++ lines table filePath .closed 0 source.lines
    ++ [⟨.debug, Log.scannerTarget,
      filePath ++ ": " ++ toString source.lines.length ++ " line(s), "
        ++ toString (Scan.ofSource table filePath source).1.length ++ " finding(s)"⟩]

end ArchAudit.Journal
