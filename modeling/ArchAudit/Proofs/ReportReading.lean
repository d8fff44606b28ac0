import ArchAudit.Proofs.JsonValues
import ArchAudit.Report.Json
import Mathlib.Data.List.Forall2

/-!
# Reading a JSON report back

The JSON form of a report loses nothing.  Its text is read as a JSON value, and from the fields of
that value the findings, one by one, what was scanned and the counts come back as they were.  The
numbers of a report are those of a machine word: a larger one would be read as a double.
-/

namespace ArchAudit

open Json

/-! ## Numbers of a machine word -/

/-- Whether a number fits into 64 bits. -/
def FitsWord (number : Nat) : Prop :=
  number < 0x10000000000000000

instance : DecidablePred FitsWord :=
  fun number => inferInstanceAs (Decidable (number < 0x10000000000000000))

namespace Json.Value

theorem nat?_nat
    {number : Nat}
    (fits : FitsWord number) :
    nat? (nat number) = some number := by
  have inRange : (0 : Int) ≤ number ∧ (number : Int) < 0x10000000000000000 := by
    unfold FitsWord at fits
    omega
  rw [nat, nat?, if_pos inRange, Int.toNat_natCast]

theorem bind_nat?_of_field?
    {value : Value} {name : String} {number : Nat}
    (written : value.field? name = some (.nat number))
    (fits : FitsWord number) :
    (value.field? name).bind nat? = some number := by
  rw [written, Option.bind_some, nat?_nat fits]

theorem exact_nat
    {number : Nat}
    (fits : FitsWord number) :
    (nat number).Exact := by
  unfold FitsWord at fits
  exact .integer ⟨by omega, by omega⟩

theorem exact_optional (text : Option String) :
    (optional text).Exact := by
  cases text with
  | none => exact .null
  | some text => exact .string text

end Json.Value

/-! ## Findings -/

namespace Issue

theorem exact_toJson (issue : Issue) :
    issue.toJson.Exact := by
  cases issue <;> exact .object (by simp [Value.Exact.string])

theorem ofJson?_toJson (issue : Issue) :
    ofJson? issue.toJson = some issue := by
  cases issue with
  | archSpecificLibrary library => rfl
  | archSpecificBuildOption option => rfl
  | vendorTuningFlag vendor flag value => cases vendor <;> rfl
  | counterpartTuningMissing present missing => cases present <;> cases missing <;> rfl
  | otherArchCondition condition => rfl

end Issue

theorem Severity.ofKey?_key (severity : Severity) :
    ofKey? severity.key = some severity := by
  cases severity <;> decide

namespace Finding

theorem exact_toJson
    {finding : Finding}
    (fits : FitsWord finding.line) :
    finding.toJson.Exact := by
  apply Value.Exact.object
  simp [Value.Exact.string, Value.exact_nat fits, Value.exact_optional, Issue.exact_toJson]

theorem optionalField?_codeSnippet (finding : Finding) :
    optionalField? finding.toJson "code_snippet" = some finding.codeSnippet := by
  have written : finding.toJson.field? "code_snippet" = some (.optional finding.codeSnippet) := rfl
  unfold optionalField?
  rw [written]
  cases finding.codeSnippet <;> rfl

theorem ofJson?_toJson
    {finding : Finding}
    (fits : FitsWord finding.line) :
    ofJson? finding.toJson = some finding := by
  have record : finding.toJson.record? fieldNames = some finding.toJson := rfl
  have id : Issue.textField? finding.toJson "id" = some finding.id := rfl
  have ruleId : Issue.textField? finding.toJson "rule_id" = some finding.ruleId := rfl
  have title : Issue.textField? finding.toJson "title" = some finding.title := rfl
  have description :
      Issue.textField? finding.toJson "description" = some finding.description := rfl
  have severity :
      ((finding.toJson.field? "severity").bind Value.choice?).bind Severity.ofKey? =
        some finding.severity :=
    Severity.ofKey?_key finding.severity
  have filePath : Issue.textField? finding.toJson "file_path" = some finding.filePath := rfl
  have line : (finding.toJson.field? "line").bind Value.nat? = some finding.line :=
    Value.bind_nat?_of_field? rfl fits
  have location : Issue.textField? finding.toJson "location" = some finding.location := rfl
  have remediation :
      Issue.textField? finding.toJson "remediation" = some finding.remediation := rfl
  have issue : (finding.toJson.field? "issue").bind Issue.ofJson? = some finding.issue :=
    Issue.ofJson?_toJson finding.issue
  simp only [ofJson?, Option.bind_eq_bind]
  rw [record, Option.bind_some, id, Option.bind_some, ruleId, Option.bind_some, title,
    Option.bind_some, description, Option.bind_some, severity, Option.bind_some, filePath,
    Option.bind_some, line, Option.bind_some, location, Option.bind_some,
    optionalField?_codeSnippet, Option.bind_some, remediation, Option.bind_some, issue,
    Option.bind_some]
  rfl

end Finding

/-! ## What was scanned -/

namespace Metadata

/-- The structured form of what was scanned. -/
def toJson (metadata : Metadata) : Value :=
  .object
    [("version", .string metadata.version),
     ("timestamp", .string metadata.timestamp),
     ("scanned_path", .string metadata.scannedPath),
     ("files_scanned", .nat metadata.filesScanned)]

/-- Reads the structured form of what was scanned. -/
def ofJson? (value : Value) : Option Metadata := do
  let version ← Issue.textField? value "version"
  let timestamp ← Issue.textField? value "timestamp"
  let scannedPath ← Issue.textField? value "scanned_path"
  let filesScanned ← (value.field? "files_scanned").bind Value.nat?
  return ⟨version, timestamp, scannedPath, filesScanned⟩

theorem exact_toJson
    {metadata : Metadata}
    (fits : FitsWord metadata.filesScanned) :
    metadata.toJson.Exact := by
  apply Value.Exact.object
  simp [Value.Exact.string, Value.exact_nat fits]

theorem ofJson?_toJson
    {metadata : Metadata}
    (fits : FitsWord metadata.filesScanned) :
    ofJson? metadata.toJson = some metadata := by
  have version : Issue.textField? metadata.toJson "version" = some metadata.version := rfl
  have timestamp : Issue.textField? metadata.toJson "timestamp" = some metadata.timestamp := rfl
  have scannedPath :
      Issue.textField? metadata.toJson "scanned_path" = some metadata.scannedPath := rfl
  have filesScanned :
      (metadata.toJson.field? "files_scanned").bind Value.nat? = some metadata.filesScanned :=
    Value.bind_nat?_of_field? rfl fits
  simp only [ofJson?, Option.bind_eq_bind]
  rw [version, Option.bind_some, timestamp, Option.bind_some, scannedPath, Option.bind_some,
    filesScanned, Option.bind_some]
  rfl

end Metadata

/-! ## The counts -/

namespace Summary

/-- The structured form of the counts. -/
def toJson (summary : Summary) : Value :=
  .object
    [("high", .nat summary.high),
     ("medium", .nat summary.medium),
     ("low", .nat summary.low),
     ("info", .nat summary.info),
     ("total", .nat summary.total)]

/-- Reads the structured form of the counts. -/
def ofJson? (value : Value) : Option Summary := do
  let high ← (value.field? "high").bind Value.nat?
  let medium ← (value.field? "medium").bind Value.nat?
  let low ← (value.field? "low").bind Value.nat?
  let info ← (value.field? "info").bind Value.nat?
  let total ← (value.field? "total").bind Value.nat?
  return ⟨high, medium, low, info, total⟩

/-- Whether all counts fit into 64 bits. -/
structure Fits (summary : Summary) : Prop where
  high : FitsWord summary.high
  medium : FitsWord summary.medium
  low : FitsWord summary.low
  info : FitsWord summary.info
  total : FitsWord summary.total

theorem exact_toJson
    {summary : Summary}
    (fits : summary.Fits) :
    summary.toJson.Exact := by
  apply Value.Exact.object
  simp [Value.exact_nat fits.high, Value.exact_nat fits.medium, Value.exact_nat fits.low,
    Value.exact_nat fits.info, Value.exact_nat fits.total]

theorem ofJson?_toJson
    {summary : Summary}
    (fits : summary.Fits) :
    ofJson? summary.toJson = some summary := by
  have high : (summary.toJson.field? "high").bind Value.nat? = some summary.high :=
    Value.bind_nat?_of_field? rfl fits.high
  have medium : (summary.toJson.field? "medium").bind Value.nat? = some summary.medium :=
    Value.bind_nat?_of_field? rfl fits.medium
  have low : (summary.toJson.field? "low").bind Value.nat? = some summary.low :=
    Value.bind_nat?_of_field? rfl fits.low
  have info : (summary.toJson.field? "info").bind Value.nat? = some summary.info :=
    Value.bind_nat?_of_field? rfl fits.info
  have total : (summary.toJson.field? "total").bind Value.nat? = some summary.total :=
    Value.bind_nat?_of_field? rfl fits.total
  simp only [ofJson?, Option.bind_eq_bind]
  rw [high, Option.bind_some, medium, Option.bind_some, low, Option.bind_some, info,
    Option.bind_some, total, Option.bind_some]
  rfl

end Summary

/-! ## Reports -/

namespace Report

/-- Whether all numbers of a report fit into 64 bits. -/
structure Fits (report : Report) : Prop where
  filesScanned : FitsWord report.metadata.filesScanned
  line : ∀ finding ∈ report.findings, FitsWord finding.line
  summary : report.summary.Fits

theorem toJson_eq (report : Report) :
    report.toJson =
      .object
        [("metadata", report.metadata.toJson),
         ("findings", .array (report.findings.map Finding.toJson)),
         ("summary", report.summary.toJson)] := rfl

theorem exact_toJson
    {report : Report}
    (fits : report.Fits) :
    report.toJson.Exact := by
  have findings : ∀ item ∈ report.findings.map Finding.toJson, item.Exact := by
    intro item member
    obtain ⟨finding, findingMember, rfl⟩ := List.mem_map.mp member
    exact Finding.exact_toJson (fits.line finding findingMember)
  rw [toJson_eq]
  apply Value.Exact.object
  simp [Metadata.exact_toJson fits.filesScanned, Value.Exact.array findings,
    Summary.exact_toJson fits.summary]

theorem forall₂_ofJson?_toJson
    {findings : List Finding}
    (fits : ∀ finding ∈ findings, FitsWord finding.line) :
    List.Forall₂ (fun item finding => Finding.ofJson? item = some finding)
      (findings.map Finding.toJson) findings := by
  rw [List.forall₂_map_left_iff]
  apply List.forall₂_same.mpr
  intro finding member
  exact Finding.ofJson?_toJson (fits finding member)

/-- The JSON text of a report is read as a value that holds all of the report: the findings one by
one and in order, what was scanned, and the counts. -/
theorem renderJson_reads_back
    {report : Report}
    (fits : report.Fits) :
    ∃ value items,
      Value.parse? report.renderJson = some value ∧
        value.field? "findings" = some (.array items) ∧
        List.Forall₂ (fun item finding => Finding.ofJson? item = some finding)
          items report.findings ∧
        (value.field? "metadata").bind Metadata.ofJson? = some report.metadata ∧
        (value.field? "summary").bind Summary.ofJson? = some report.summary := by
  have metadataField : report.toJson.field? "metadata" = some report.metadata.toJson := rfl
  have summaryField : report.toJson.field? "summary" = some report.summary.toJson := rfl
  refine ⟨report.toJson, report.findings.map Finding.toJson, ?_, rfl, ?_, ?_, ?_⟩
  · exact Value.parse?_indented (exact_toJson fits)
  · exact forall₂_ofJson?_toJson fits.line
  · rw [metadataField, Option.bind_some, Metadata.ofJson?_toJson fits.filesScanned]
  · rw [summaryField, Option.bind_some, Summary.ofJson?_toJson fits.summary]

def sampleReport : Report where
  metadata := ⟨"0.1.0", "0", "C:\\", 0⟩
  findings :=
    [⟨"", "A003", "\"", "\n\x01é", .high, "a\\b", 0xFFFFFFFFFFFFFFFF, "", none, "\x7f",
      .vendorTuningFlag .ampereOne "\x1f" "[]"⟩]
  summary := ⟨0xFFFFFFFFFFFFFFFF, 0, 0, 0, 1⟩

/-- Quotes, backslashes, control characters, no snippet, and the largest number. -/
theorem renderJson_reads_back_sample :
    sampleReport.Fits ∧
      ∃ value items,
        Value.parse? sampleReport.renderJson = some value ∧
          value.field? "findings" = some (.array items) ∧
          List.Forall₂ (fun item finding => Finding.ofJson? item = some finding)
            items sampleReport.findings ∧
          (value.field? "metadata").bind Metadata.ofJson? = some sampleReport.metadata ∧
          (value.field? "summary").bind Summary.ofJson? = some sampleReport.summary := by
  have fits : sampleReport.Fits := {
    filesScanned := by decide
    line := by decide
    summary := ⟨by decide, by decide, by decide, by decide, by decide⟩ }
  exact ⟨fits, renderJson_reads_back fits⟩

end Report

end ArchAudit
