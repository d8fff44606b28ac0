import ArchAudit.Report

/-!
# Reports as workflow annotations

One line for each finding, in the form `::level key=value,key=value::message`.  Characters that end
a line are escaped in messages; in titles, so are those that end a property.
-/

namespace ArchAudit.Report

/-- One character as it stands in a message. -/
def escapeMessageChar (c : Char) : List Char :=
  if c = '%' then ['%', '2', '5']
  else if c = '\r' then ['%', '0', 'D']
  else if c = '\n' then ['%', '0', 'A']
  else [c]

/-- One character as it stands in the value of a property. -/
def escapePropertyChar (c : Char) : List Char :=
  if c = ':' then ['%', '3', 'A']
  else if c = ',' then ['%', '2', 'C']
  else escapeMessageChar c

/-- A text as it stands in a message. -/
def escapeMessage (text : String) : String :=
  String.ofList (text.toList.flatMap escapeMessageChar)

/-- A text as it stands in the value of a property. -/
def escapeProperty (text : String) : String :=
  String.ofList (text.toList.flatMap escapePropertyChar)

/-- The annotation of a finding.  The path stands as it is. -/
def annotationLine (finding : Finding) : String :=
  "::" ++ finding.severity.annotationLevel ++ " file=" ++ finding.filePath
    ++ ",line=" ++ toString finding.line
    ++ ",title=" ++ escapeProperty finding.title
    ++ "::" ++ escapeMessage finding.description ++ "\n"

/-- The report as annotations. -/
def renderAnnotations (report : Report) : String :=
  String.join (report.findings.map annotationLine)

end ArchAudit.Report
