import ArchAudit.Report

/-!
# Reports as Markdown

A document with a table of counts and one section for each finding.
-/

namespace ArchAudit.Report

/-- The head of the document: what was scanned, and the counts. -/
def markdownHead (report : Report) : String :=
  "# AArch64 Portability Report\n\n"
    ++ "- **Scanned path:** `" ++ report.metadata.scannedPath
    ++ "`\n- **Files scanned:** " ++ toString report.metadata.filesScanned
    ++ "\n- **Tool version:** " ++ report.metadata.version ++ "\n\n"
    ++ "## Summary\n\n| Severity | Count |\n|----------|-------|\n"
    ++ "| High | " ++ toString report.summary.high ++ " |\n"
    ++ "| Medium | " ++ toString report.summary.medium ++ " |\n"
    ++ "| Low | " ++ toString report.summary.low ++ " |\n"
    ++ "| Info | " ++ toString report.summary.info ++ " |\n"
    ++ "| **Total** | **" ++ toString report.summary.total ++ "** |\n\n"

/-- The statement of a finding in a code block. -/
def markdownSnippet : Option String → String
  | some snippet => "```cmake\n" ++ snippet ++ "\n```\n\n"
  | none => ""

/-- The section of one finding. -/
def markdownSection (number : Nat) (finding : Finding) : String :=
  "### " ++ toString number ++ ". [" ++ finding.ruleId ++ "] " ++ finding.title ++ "\n\n"
    ++ finding.severity.badge ++ "\n\n"
    ++ "**Location:** `" ++ finding.filePath ++ ":" ++ toString finding.line ++ "` ("
    ++ finding.location ++ ")\n\n"
    ++ finding.description ++ "\n\n"
    ++ markdownSnippet finding.codeSnippet
    ++ "**Remediation:** " ++ finding.remediation ++ "\n\n"

/-- The sections of some findings, numbered from the given number on. -/
def markdownSections (number : Nat) : List Finding → String
  | [] => ""
  | finding :: findings =>
    markdownSection number finding ++ markdownSections (number + 1) findings

/-- The report as a Markdown document. -/
def renderMarkdown (report : Report) : String :=
  report.markdownHead
    ++ if report.findings.isEmpty then "No portability issues found.\n"
      else "## Findings\n\n" ++ markdownSections 1 report.findings

end ArchAudit.Report
