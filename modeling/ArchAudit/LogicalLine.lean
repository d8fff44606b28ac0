import ArchAudit.Text.Blank

/-!
# Logical lines

A logical line is one complete statement of a build script together with the physical lines that
it spans.  Physical lines are counted from one.
-/

namespace ArchAudit

/-- A complete statement and the physical lines it spans. -/
structure LogicalLine where
  text : String
  /-- The physical line on which the statement begins. -/
  startLine : Nat
  /-- The physical line on which the statement is complete. -/
  endLine : Nat
deriving DecidableEq, Repr

namespace LogicalLine

/-- Whether the statement was joined from several physical lines. -/
def isFolded (line : LogicalLine) : Bool :=
  line.startLine < line.endLine

/-- Whether there is nothing but blanks in the statement. -/
def isBlank (line : LogicalLine) : Bool :=
  Text.isBlankText line.text

/-- The span in words: `line 4` or `lines 4-6`. -/
def span (line : LogicalLine) : String :=
  if line.isFolded then
    "lines " ++ toString line.startLine ++ "-" ++ toString line.endLine
  else
    "line " ++ toString line.startLine

/-- The statement without the blanks around it. -/
def snippet (line : LogicalLine) : String :=
  Text.trimmed line.text

end LogicalLine

end ArchAudit
