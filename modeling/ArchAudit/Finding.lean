import ArchAudit.Issue

/-!
# Findings

A finding is an issue at a place in a file, with everything a reader needs to understand and mend
it.
-/

namespace ArchAudit

/-- An issue at a place in a file. -/
structure Finding where
  /-- The identifier of the finding: rule, file and line. -/
  id : String
  ruleId : String
  title : String
  description : String
  severity : Severity
  filePath : String
  /-- The reported line: one past the line that completes the statement, or one past the last
  line of the file. -/
  line : Nat
  /-- The place in words. -/
  location : String
  /-- The statement that gave rise to the finding. -/
  codeSnippet : Option String
  remediation : String
  issue : Issue
deriving DecidableEq, Repr

namespace Finding

/-- The finding for an issue at a place. -/
def ofIssue
    (issue : Issue)
    (filePath : String)
    (line : Nat)
    (location : String)
    (codeSnippet : Option String) :
    Finding where
  id := issue.rule.id ++ "-" ++ filePath ++ ":" ++ toString line
  ruleId := issue.rule.id
  title := issue.title
  description := issue.description
  severity := issue.rule.severity
  filePath := filePath
  line := line
  location := location
  codeSnippet := codeSnippet
  remediation := issue.rule.remediation
  issue := issue

end Finding

end ArchAudit
