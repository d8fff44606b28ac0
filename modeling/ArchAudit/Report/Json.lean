import ArchAudit.Json.Printer
import ArchAudit.Report

/-!
# Reports as JSON

The structured form of issues, findings and reports, and the way back from the structured form of a
finding.
-/

namespace ArchAudit

open Json

namespace Issue

/-- The structured form of an issue: the kind, then what was matched. -/
def toJson : Issue → Value
  | archSpecificLibrary library =>
    .object [("kind", .string "arch_specific_library"), ("library", .string library)]
  | archSpecificBuildOption option =>
    .object [("kind", .string "arch_specific_build_option"), ("option", .string option)]
  | vendorTuningFlag vendor flag value =>
    .object [("kind", .string "vendor_tuning_flag"), ("vendor", .string vendor.key),
      ("flag", .string flag), ("value", .string value)]
  | counterpartTuningMissing present missing =>
    .object [("kind", .string "counterpart_tuning_missing"), ("present", .string present.key),
      ("missing", .string missing.key)]
  | otherArchCondition condition =>
    .object [("kind", .string "other_arch_condition"), ("condition", .string condition)]

/-- A text field of an object. -/
def textField? (value : Value) (name : String) : Option String :=
  (value.field? name).bind Value.string?

/-- The vendor that a value names.  The name may also be the only field of an object, with an empty
object or null behind it. -/
def vendorOf? : Value → Option Vendor
  | .object [(name, .object [])] => Vendor.ofKey? name
  | value => value.choice?.bind Vendor.ofKey?

/-- A field of an object that names a vendor. -/
def vendorField? (value : Value) (name : String) : Option Vendor :=
  (value.field? name).bind vendorOf?

/-- The kind of an issue: a field of an object, or the first item of an array. -/
def kind? : Value → Option String
  | .array (kind :: _) => kind.string?
  | value => textField? value "kind"

/-- Reads the structured form of an issue.  In an object, fields of other names are ignored; an
array holds the kind and the fields in their order. -/
def ofJson? (value : Value) : Option Issue := do
  match ← kind? value with
  | "arch_specific_library" =>
    let fields ← value.record? ["kind", "library"]
    return archSpecificLibrary (← textField? fields "library")
  | "arch_specific_build_option" =>
    let fields ← value.record? ["kind", "option"]
    return archSpecificBuildOption (← textField? fields "option")
  | "vendor_tuning_flag" =>
    let fields ← value.record? ["kind", "vendor", "flag", "value"]
    return vendorTuningFlag (← vendorField? fields "vendor") (← textField? fields "flag")
      (← textField? fields "value")
  | "counterpart_tuning_missing" =>
    let fields ← value.record? ["kind", "present", "missing"]
    return counterpartTuningMissing (← vendorField? fields "present")
      (← vendorField? fields "missing")
  | "other_arch_condition" =>
    let fields ← value.record? ["kind", "condition"]
    return otherArchCondition (← textField? fields "condition")
  | _ => none

end Issue

namespace Finding

/-- The structured form of a finding. -/
def toJson (finding : Finding) : Value :=
  .object
    [("id", .string finding.id),
     ("rule_id", .string finding.ruleId),
     ("title", .string finding.title),
     ("description", .string finding.description),
     ("severity", .string finding.severity.key),
     ("file_path", .string finding.filePath),
     ("line", .nat finding.line),
     ("location", .string finding.location),
     ("code_snippet", .optional finding.codeSnippet),
     ("remediation", .string finding.remediation),
     ("issue", finding.issue.toJson)]

/-- A text field that may be missing or null. -/
def optionalField? (value : Value) (name : String) : Option (Option String) :=
  match value.field? name with
  | none => some none
  | some .null => some none
  | some (.string text) => some (some text)
  | some _ => none

/-- The names of the fields of a finding, in their order. -/
def fieldNames : List String :=
  ["id", "rule_id", "title", "description", "severity", "file_path", "line", "location",
   "code_snippet", "remediation", "issue"]

/-- Reads the structured form of a finding.  In an object every field but the snippet has to be
there, and fields of other names are ignored; an array holds all the fields in their order. -/
def ofJson? (written : Value) : Option Finding := do
  let value ← written.record? fieldNames
  let id ← Issue.textField? value "id"
  let ruleId ← Issue.textField? value "rule_id"
  let title ← Issue.textField? value "title"
  let description ← Issue.textField? value "description"
  let severity ← ((value.field? "severity").bind Value.choice?).bind Severity.ofKey?
  let filePath ← Issue.textField? value "file_path"
  let line ← (value.field? "line").bind Value.nat?
  let location ← Issue.textField? value "location"
  let codeSnippet ← optionalField? value "code_snippet"
  let remediation ← Issue.textField? value "remediation"
  let issue ← (value.field? "issue").bind Issue.ofJson?
  return ⟨id, ruleId, title, description, severity, filePath, line, location, codeSnippet,
    remediation, issue⟩

end Finding

namespace Report

/-- The structured form of a report. -/
def toJson (report : Report) : Value :=
  .object
    [("metadata", .object
      [("version", .string report.metadata.version),
       ("timestamp", .string report.metadata.timestamp),
       ("scanned_path", .string report.metadata.scannedPath),
       ("files_scanned", .nat report.metadata.filesScanned)]),
     ("findings", .array (report.findings.map Finding.toJson)),
     ("summary", .object
      [("high", .nat report.summary.high),
       ("medium", .nat report.summary.medium),
       ("low", .nat report.summary.low),
       ("info", .nat report.summary.info),
       ("total", .nat report.summary.total)])]

/-- The report as JSON text. -/
def renderJson (report : Report) : String :=
  report.toJson.indented

end Report

end ArchAudit
