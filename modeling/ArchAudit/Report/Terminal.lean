import ArchAudit.Report
import ArchAudit.Text.Lines

/-!
# Reports on a terminal

The report as it is shown on a terminal, with or without colours.
-/

namespace ArchAudit.Report

open Text

/-- A line across the terminal. -/
def ruler (c : Char) : String :=
  String.ofList (List.replicate 60 c)

/-- Lines of a text, each indented and in a style. -/
def indentedLines (coloured : Bool) (style : Style) (text : String) : String :=
  String.join ((lines text).map fun line => "   " ++ style.paint coloured line ++ "\n")

/-- The statement of a finding. -/
def terminalSnippet (coloured : Bool) : Option String → String
  | some snippet =>
    "\n   " ++ (Style.colour .yellow).paint coloured "Code:" ++ "\n"
      ++ indentedLines coloured (.colour .brightWhite) snippet
  | none => ""

/-- At most three lines of advice. -/
def terminalAdvice (coloured : Bool) (advice : String) : String :=
  String.join (((lines advice).take 3).map fun line =>
    "   " ++ (Style.mk false true none (some .green)).paint coloured line ++ "\n")

/-- One finding. -/
def terminalFinding (coloured : Bool) (number : Nat) (finding : Finding) : String :=
  "\n" ++ (Style.boldColour .cyan).paint coloured ("#" ++ toString number) ++ " "
    ++ finding.severity.label coloured ++ " ["
    ++ (Style.colour .yellow).paint coloured finding.ruleId ++ "] "
    ++ (Style.boldColour .white).paint coloured finding.title ++ "\n"
    ++ "   " ++ Style.plainDimmed.paint coloured "Location:" ++ " "
    ++ (Style.colour .blue).paint coloured finding.filePath ++ ":"
    ++ (Style.colour .cyan).paint coloured (toString finding.line) ++ " ("
    ++ Style.plainDimmed.paint coloured finding.location ++ ")\n"
    ++ indentedLines coloured Style.plainDimmed finding.description
    ++ terminalSnippet coloured finding.codeSnippet
    ++ "\n   " ++ (Style.colour .green).paint coloured "Remediation:" ++ "\n"
    ++ terminalAdvice coloured finding.remediation
    ++ Style.plainDimmed.paint coloured (ruler '-') ++ "\n"

/-- Some findings, numbered from the given number on. -/
def terminalFindings (coloured : Bool) (number : Nat) : List Finding → String
  | [] => ""
  | finding :: findings =>
    terminalFinding coloured number finding ++ terminalFindings coloured (number + 1) findings

/-- All findings. -/
def renderTerminal (coloured : Bool) (report : Report) : String :=
  if report.findings.isEmpty then
    "\n" ++ (Style.boldColour .green).paint coloured "[+] No portability issues found." ++ "\n"
  else
    "\n" ++ (Style.boldColour .red).paint coloured "[!] Portability Findings:" ++ "\n"
      ++ (Style.colour .cyan).paint coloured (ruler '=') ++ "\n"
      ++ terminalFindings coloured 1 report.findings

/-- The colour of the total: that of the gravest findings. -/
def totalColour (summary : Summary) : Colour :=
  if 0 < summary.high then .red else if 0 < summary.medium then .yellow else .blue

/-- The counts in a line, and the total in another. -/
def renderSummary (coloured : Bool) (report : Report) : String :=
  Style.plainBold.paint coloured
      ("[*] Summary: " ++ toString report.summary.high ++ " High | "
        ++ toString report.summary.medium ++ " Medium | "
        ++ toString report.summary.low ++ " Low | "
        ++ toString report.summary.info ++ " Info ("
        ++ toString report.metadata.filesScanned ++ " file(s) scanned)")
    ++ "\n"
    ++ (if report.summary.total = 0 then
        (Style.boldColour .green).paint coloured "[+] No issues found."
      else
        (Style.boldColour (totalColour report.summary)).paint coloured
          ("[!] Total: " ++ toString report.summary.total ++ " issue(s) found"))
    ++ "\n"

end ArchAudit.Report
