import ArchAudit.Proofs.ScanFindings
import ArchAudit.Text.Digit

/-!
# Identifiers of findings

A finding is identified by its rule, its file and its line.  The three stand in one text, and a path
may hold any character; they can still be told apart, since the rule has a fixed length and the line
is what stands behind the last colon.  No two findings of a run agree in all three, whether the
files were read to their ends or not.
-/

namespace ArchAudit

/-! ## The parts of an identifier -/

theorem Rule.length_id (rule : Rule) :
    rule.id.toList.length = 4 := by
  cases rule <;> rfl

theorem Rule.id_injective
    {first second : Rule}
    (same : first.id = second.id) :
    first = second := by
  revert same
  cases first <;> cases second <;> decide

/-- The last colon of a text divides it in one way only. -/
theorem append_colon_inj
    {path otherPath number otherNumber : List Char}
    (absent : ':' ∉ number)
    (otherAbsent : ':' ∉ otherNumber)
    (same : path ++ ':' :: number = otherPath ++ ':' :: otherNumber) :
    path = otherPath ∧ number = otherNumber := by
  rcases List.append_eq_append_iff.mp same with
    ⟨between, rfl, tailEq⟩ | ⟨between, rfl, tailEq⟩
  · cases between with
    | nil => simpa using tailEq
    | cons c others => exact absurd (by simp [(List.cons.inj tailEq).2]) absent
  · cases between with
    | nil => simpa using tailEq.symm
    | cons c others => exact absurd (by simp [(List.cons.inj tailEq).2]) otherAbsent

namespace Finding

/-- Whether a finding carries the identifier of its rule and its line in a given file. -/
structure IdentifiedIn (filePath : String) (finding : Finding) : Prop where
  ruleId_eq : finding.ruleId = finding.issue.rule.id
  id_eq : finding.id = finding.ruleId ++ "-" ++ filePath ++ ":" ++ toString finding.line

theorem ofIssue_identifiedIn
    (issue : Issue) (filePath : String) (line : Nat) (location : String)
    (codeSnippet : Option String) :
    (ofIssue issue filePath line location codeSnippet).IdentifiedIn filePath :=
  ⟨rfl, rfl⟩

/-- An identifier determines the rule, the file and the line. -/
theorem IdentifiedIn.parts_eq
    {firstPath secondPath : String} {first second : Finding}
    (firstIdentified : first.IdentifiedIn firstPath)
    (secondIdentified : second.IdentifiedIn secondPath)
    (same : first.id = second.id) :
    first.ruleId = second.ruleId ∧ firstPath = secondPath ∧ first.line = second.line := by
  have texts := congrArg String.toList same
  rw [firstIdentified.id_eq, secondIdentified.id_eq] at texts
  simp only [String.toList_append, List.append_assoc] at texts
  -- the rule ends after four characters, and only then may the path begin
  have sameLength : first.ruleId.toList.length = second.ruleId.toList.length := by
    rw [firstIdentified.ruleId_eq, secondIdentified.ruleId_eq, Rule.length_id, Rule.length_id]
  obtain ⟨sameRule, behindRule⟩ := List.append_inj texts sameLength
  have behindDash := (List.append_inj behindRule rfl).2
  obtain ⟨samePath, sameNumber⟩ :=
    append_colon_inj (Text.not_mem_toString rfl first.line) (Text.not_mem_toString rfl second.line)
      behindDash
  exact ⟨String.toList_inj.mp sameRule, String.toList_inj.mp samePath,
    Nat.repr_injective (String.toList_inj.mp sameNumber)⟩

end Finding

/-! ## Issues that are reported together -/

/-- A statement raises at most one issue of a rule. -/
theorem Vocabulary.pairwise_rule_reportedIssues (vocabulary : Vocabulary) (text : String) :
    (vocabulary.reportedIssues text).Pairwise fun first second => first.rule ≠ second.rule := by
  unfold reportedIssues rowIssues
  cases vocabulary.capture? .library Classifier.lookupCommands text <;>
    cases vocabulary.capture? .buildOption Classifier.optionMark text <;>
    cases vocabulary.capture? .neoverseTuning Classifier.tuningLeads text <;>
    simp [Issue.rule]

/-- A file as a whole raises at most one issue of a rule. -/
theorem Evidence.pairwise_rule_verdict (evidence : Evidence) :
    evidence.verdict.Pairwise fun first second => first.rule ≠ second.rule := by
  unfold verdict conditionVerdict tuningVerdict
  cases evidence.otherCondition <;>
    cases evidence.aarch64 <;>
    cases evidence.neoverse && !evidence.ampereOne <;>
    simp [Issue.rule]

namespace Scan

open Folding

/-! ## Identifiers in one file -/

theorem identifiedIn_of_mem_statementFindings
    {vocabulary : Vocabulary} {filePath : String} {line : LogicalLine} {finding : Finding}
    (member : finding ∈ statementFindings vocabulary filePath line) :
    finding.IdentifiedIn filePath := by
  obtain ⟨issue, _, rfl⟩ := List.mem_map.mp member
  exact Finding.ofIssue_identifiedIn issue filePath _ _ _

theorem identifiedIn_of_mem_fileFindings
    {vocabulary : Vocabulary} {filePath : String} {lastLine : Nat}
    {lines : List LogicalLine} {finding : Finding}
    (member : finding ∈ fileFindings vocabulary filePath lastLine lines) :
    finding.IdentifiedIn filePath := by
  obtain ⟨issue, _, rfl⟩ := List.mem_map.mp member
  exact Finding.ofIssue_identifiedIn issue filePath _ _ _

/-- Issues of different rules at one place have different identifiers. -/
theorem pairwise_id_of_pairwise_rule
    {issues : List Issue} {finding : Issue → Finding} {filePath : String}
    (ruleId_eq : ∀ issue, (finding issue).ruleId = issue.rule.id)
    (identified : ∀ issue, (finding issue).IdentifiedIn filePath)
    (rulesDiffer : issues.Pairwise fun first second => first.rule ≠ second.rule) :
    (issues.map finding).Pairwise fun first second => first.id ≠ second.id := by
  rw [List.pairwise_map]
  apply rulesDiffer.imp
  intro first second different sameId
  have sameRule := ((identified first).parts_eq (identified second) sameId).1
  rw [ruleId_eq, ruleId_eq] at sameRule
  exact different (Rule.id_injective sameRule)

theorem pairwise_id_statementFindings
    (vocabulary : Vocabulary) (filePath : String) (lines : List String) :
    ((visible (statements lines)).flatMap (statementFindings vocabulary filePath)).Pairwise
      fun first second => first.id ≠ second.id := by
  rw [List.pairwise_flatMap]
  constructor
  · intro line _
    exact pairwise_id_of_pairwise_rule (fun _ => rfl)
      (fun issue => Finding.ofIssue_identifiedIn issue filePath _ _ _)
      (vocabulary.pairwise_rule_reportedIssues line.text)
  · -- the rules of two statements may agree, but not the lines on which they end
    apply ((statements_pairwise_endLine lines).filter _).imp
    intro earlierLine laterLine ordered earlier earlierMember later laterMember sameId
    have sameLine :=
      ((identifiedIn_of_mem_statementFindings earlierMember).parts_eq
        (identifiedIn_of_mem_statementFindings laterMember) sameId).2.2
    rw [line_of_mem_statementFindings earlierMember,
      line_of_mem_statementFindings laterMember] at sameLine
    omega

theorem id_ne_of_mem_statementFindings_of_mem_fileFindings
    {vocabulary : Vocabulary} {filePath : String} {lastLine : Nat}
    {line : LogicalLine} {lines : List LogicalLine} {first second : Finding}
    (firstMember : first ∈ statementFindings vocabulary filePath line)
    (secondMember : second ∈ fileFindings vocabulary filePath lastLine lines) :
    first.id ≠ second.id := by
  intro sameId
  have sameRule :=
    ((identifiedIn_of_mem_statementFindings firstMember).parts_eq
      (identifiedIn_of_mem_fileFindings secondMember) sameId).1
  have immediate := isImmediate_of_mem_statementFindings firstMember
  rw [isImmediate, sameRule] at immediate
  rcases ruleId_of_mem_fileFindings secondMember with isA004 | isA005
  · simp [isA004] at immediate
  · simp [isA005] at immediate

section Compiled

variable {vocabulary : Vocabulary} {table : Table}
variable (compiled : Table.compile vocabulary = .ok table)
variable (filePath : String)

include compiled

theorem pairwise_id_ofLines (lines : List String) :
    (ofLines table filePath lines).Pairwise fun first second => first.id ≠ second.id := by
  rw [ofLines_of_compile compiled, List.pairwise_append]
  refine ⟨pairwise_id_statementFindings vocabulary filePath lines, ?_, ?_⟩
  · exact pairwise_id_of_pairwise_rule (fun _ => rfl)
      (fun issue => Finding.ofIssue_identifiedIn issue filePath _ _ _)
      (Evidence.pairwise_rule_verdict _)
  · intro first firstMember second secondMember
    obtain ⟨line, _, statementMember⟩ := List.mem_flatMap.mp firstMember
    exact id_ne_of_mem_statementFindings_of_mem_fileFindings statementMember secondMember

theorem identifiedIn_of_mem_ofLines
    {lines : List String} {finding : Finding}
    (member : finding ∈ ofLines table filePath lines) :
    finding.IdentifiedIn filePath := by
  rw [ofLines_of_compile compiled] at member
  rcases List.mem_append.mp member with early | late
  · obtain ⟨line, _, statementMember⟩ := List.mem_flatMap.mp early
    exact identifiedIn_of_mem_statementFindings statementMember
  · exact identifiedIn_of_mem_fileFindings late

/-! ## Reads that break off -/

/-- What has been found before the input ends stays at the front of what is found in all. -/
theorem run_findings_begin_ofLines (lines : List String) :
    (run table filePath lines).findings <+: ofLines table filePath lines := by
  have completed :
      (Continuation.closed.run 0 lines).2 <+: statements lines := by
    rw [← Continuation.emitted_eq_statements, Continuation.emitted, Continuation.emittedFrom]
    exact List.prefix_append _ _
  rw [ofLines_of_compile compiled, run, foldl_feed_of_compile compiled]
  simp only [advance, start, List.nil_append]
  exact ((completed.filter _).flatMap _).trans (List.prefix_append _ _)

theorem ofSource_findings_begin_ofLines (source : Source) :
    (ofSource table filePath source).1 <+:
      ofLines table filePath (source.lines.map PhysicalLine.text) := by
  unfold ofSource
  cases source.failure with
  | none => exact List.prefix_rfl
  | some failure => exact run_findings_begin_ofLines compiled filePath _

end Compiled

/-! ## Identifiers in several files -/

/-- The findings in a sink after some files have been scanned into it, one after the other.  A read
that breaks off leaves what was found before. -/
def scanInto
    (table : Table)
    (sink : List Finding)
    (files : List (String × Source)) :
    List Finding :=
  files.foldl (fun found file => found ++ (ofSource table file.1 file.2).1) sink

theorem scanInto_eq_append
    (table : Table) (sink : List Finding) (files : List (String × Source)) :
    scanInto table sink files =
      sink ++ files.flatMap fun file => (ofSource table file.1 file.2).1 := by
  induction files generalizing sink with
  | nil => simp [scanInto]
  | cons file others inductionHypothesis =>
      rw [scanInto, List.foldl_cons, ← scanInto, inductionHypothesis, List.flatMap_cons,
        List.append_assoc]

/-- Files with different paths give findings with different identifiers. -/
theorem ids_distinct
    {vocabulary : Vocabulary} {table : Table}
    (compiled : Table.compile vocabulary = .ok table)
    {files : List (String × Source)}
    (pathsDistinct : (files.map Prod.fst).Nodup) :
    ((scanInto table [] files).map Finding.id).Nodup := by
  have found :
      ∀ file : String × Source, ∀ finding ∈ (ofSource table file.1 file.2).1,
        finding ∈ ofLines table file.1 (file.2.lines.map PhysicalLine.text) :=
    fun file _ member =>
      (ofSource_findings_begin_ofLines compiled file.1 file.2).subset member
  rw [scanInto_eq_append, List.nil_append, List.Nodup, List.pairwise_map, List.pairwise_flatMap]
  constructor
  · intro file _
    exact (pairwise_id_ofLines compiled file.1 _).sublist
      (ofSource_findings_begin_ofLines compiled file.1 file.2).sublist
  · apply (List.pairwise_map.mp pathsDistinct).imp
    intro firstFile secondFile pathsDiffer first firstMember second secondMember sameId
    have firstIdentified :=
      identifiedIn_of_mem_ofLines compiled _ (found firstFile first firstMember)
    have secondIdentified :=
      identifiedIn_of_mem_ofLines compiled _ (found secondFile second secondMember)
    exact pathsDiffer (firstIdentified.parts_eq secondIdentified sameId).2.1

def sampleFiles : List (String × Source) :=
  [("a", .ofText "find_package(MKL)"),
    ("a:2", ⟨Text.Utf8.encode "find_package(MKL)\nfind_package(MKL)", some .notFound⟩)]

/-- A path can end like a line number, and a read can break off behind the first line. -/
theorem ids_distinct_sample :
    Table.compile sampleVocabulary = .ok sampleTable ∧
      (sampleFiles.map Prod.fst).Nodup ∧
      ((scanInto sampleTable [] sampleFiles).map Finding.id).Nodup ∧
      (scanInto sampleTable [] sampleFiles).map Finding.id = ["A001-a:2", "A001-a:2:2"] := by
  have pathsDistinct : (sampleFiles.map Prod.fst).Nodup := by decide
  exact ⟨compile_sampleVocabulary, pathsDistinct,
    ids_distinct compile_sampleVocabulary pathsDistinct, by decide +kernel⟩

end Scan

end ArchAudit
