import ArchAudit.Scan
import ArchAudit.Proofs.Classification
import ArchAudit.Proofs.Folding
import Mathlib

/-!
# Findings of a scan

A scan works through a file line by line, with a folder of continued lines and a growing record of
evidence.  Its result needs none of that state: the findings are those of the statements of the
file, each on its own, and behind them the verdict on the file as a whole.
-/

namespace ArchAudit.Scan

open Folding

/-! ## What the statements contribute -/

def visible (lines : List LogicalLine) : List LogicalLine :=
  lines.filter fun line => !line.isBlank

/-- The statements of a text that are not blank. -/
def statementsOf (text : String) : List LogicalLine :=
  visible (statements (Text.lines text))

/-- The findings of one statement: an issue each, one line past the statement. -/
def statementFindings
    (vocabulary : Vocabulary)
    (filePath : String)
    (line : LogicalLine) :
    List Finding :=
  (vocabulary.reportedIssues line.text).map fun issue =>
    .ofIssue issue filePath (line.endLine + 1) line.span (some (Text.trimmed line.text))

def evidenceOf (vocabulary : Vocabulary) (lines : List LogicalLine) : Evidence :=
  lines.foldl (Evidence.gather vocabulary) .empty

/-- The findings about a file as a whole, given its statements and the number of its physical
lines. -/
def fileFindings
    (vocabulary : Vocabulary)
    (filePath : String)
    (lastLine : Nat)
    (lines : List LogicalLine) :
    List Finding :=
  (evidenceOf vocabulary lines).verdict.map (verdictFinding filePath lastLine)

/-- The scan after some more statements are complete. -/
def advance
    (vocabulary : Vocabulary)
    (filePath : String)
    (scan : Scan)
    (pending : Continuation)
    (lastLine : Nat)
    (completed : List LogicalLine) :
    Scan where
  pending := pending
  evidence := (visible completed).foldl (Evidence.gather vocabulary) scan.evidence
  lastLine := lastLine
  findings := scan.findings ++ (visible completed).flatMap (statementFindings vocabulary filePath)

@[simp]
theorem visible_append (first second : List LogicalLine) :
    visible (first ++ second) = visible first ++ visible second :=
  List.filter_append first second

theorem advance_advance
    (vocabulary : Vocabulary) (filePath : String) (scan : Scan)
    (pending later : Continuation) (lastLine laterLine : Nat)
    (first second : List LogicalLine) :
    (scan.advance vocabulary filePath pending lastLine first).advance
        vocabulary filePath later laterLine second =
      scan.advance vocabulary filePath later laterLine (first ++ second) := by
  simp [advance, List.foldl_append, List.flatMap_append]

/-! ## Runs of the scan -/

section Compiled

variable {vocabulary : Vocabulary} {table : Table}
variable (compiled : Table.compile vocabulary = .ok table)
variable (filePath : String)

include compiled

theorem absorb?_of_compile
    (scan : Scan) (pending : Continuation) (lastLine : Nat) (line : Option LogicalLine) :
    absorb? table filePath { scan with pending := pending, lastLine := lastLine } line =
      scan.advance vocabulary filePath pending lastLine line.toList := by
  cases line with
  | none => simp [absorb?, advance, visible]
  | some line =>
      by_cases blank : line.isBlank = true
      · simp [absorb?, absorb, advance, visible, blank]
      · simp [absorb?, absorb, advance, visible, blank, Table.classify_of_compile compiled,
          statementFindings, lineFinding, LogicalLine.snippet]

theorem feed_of_compile (scan : Scan) (raw : String) :
    scan.feed table filePath raw =
      scan.advance vocabulary filePath
        (scan.pending.feed (scan.lastLine + 1) raw).1 (scan.lastLine + 1)
        (scan.pending.feed (scan.lastLine + 1) raw).2.toList :=
  absorb?_of_compile compiled filePath scan _ _ _

/-- Physical lines advance the scan by the statements they complete. -/
theorem foldl_feed_of_compile (scan : Scan) (lines : List String) :
    lines.foldl (feed table filePath) scan =
      scan.advance vocabulary filePath
        (scan.pending.run scan.lastLine lines).1 (scan.lastLine + lines.length)
        (scan.pending.run scan.lastLine lines).2 := by
  induction lines generalizing scan with
  | nil => simp [Continuation.run, advance, visible]
  | cons raw rest inductionHypothesis =>
      have shifted : scan.lastLine + 1 + rest.length = scan.lastLine + (raw :: rest).length := by
        simp only [List.length_cons]
        omega
      rw [List.foldl_cons, feed_of_compile compiled, inductionHypothesis, advance_advance]
      simp only [advance, shifted, Continuation.run]

theorem finish_of_compile (scan : Scan) :
    scan.finish table filePath =
      (scan.advance vocabulary filePath (scan.pending.finish scan.lastLine).1 scan.lastLine
          (scan.pending.finish scan.lastLine).2.toList).findings ++
        (scan.advance vocabulary filePath (scan.pending.finish scan.lastLine).1 scan.lastLine
          (scan.pending.finish scan.lastLine).2.toList).evidence.verdict.map
            (verdictFinding filePath scan.lastLine) := by
  have completed :=
    absorb?_of_compile compiled filePath scan
      (scan.pending.finish scan.lastLine).1 scan.lastLine (scan.pending.finish scan.lastLine).2
  simp only [finish, completed, advance]

/-- The findings of some physical lines are those of their statements, one after the other, and
then those about the file. -/
theorem ofLines_of_compile (lines : List String) :
    ofLines table filePath lines =
      (visible (statements lines)).flatMap (statementFindings vocabulary filePath) ++
        fileFindings vocabulary filePath lines.length (visible (statements lines)) := by
  rw [ofLines, run, finish_of_compile compiled, foldl_feed_of_compile compiled, advance_advance]
  simp only [advance, start, Nat.zero_add]
  rw [← Continuation.emitted_eq_statements, Continuation.emitted, Continuation.emittedFrom]
  simp only [Nat.zero_add, List.nil_append, fileFindings, evidenceOf]

theorem ofText_of_compile (text : String) :
    ofText table filePath text =
      (statementsOf text).flatMap (statementFindings vocabulary filePath) ++
        fileFindings vocabulary filePath (Text.lines text).length (statementsOf text) :=
  ofLines_of_compile compiled filePath (Text.lines text)

end Compiled

/-! ## Rules and places of findings -/

/-- Whether a finding is about a statement, and not about the file as a whole. -/
def isImmediate (finding : Finding) : Bool :=
  finding.ruleId ∈ ["A001", "A002", "A003"]

theorem isImmediate_of_mem_statementFindings
    {vocabulary : Vocabulary} {filePath : String} {line : LogicalLine} {finding : Finding}
    (member : finding ∈ statementFindings vocabulary filePath line) :
    isImmediate finding = true := by
  obtain ⟨issue, issueMember, rfl⟩ := List.mem_map.mp member
  simp only [Vocabulary.reportedIssues, Vocabulary.rowIssues, List.mem_append,
    List.mem_map] at issueMember
  rcases issueMember with (⟨_, _, rfl⟩ | ⟨_, _, rfl⟩) | ⟨_, _, rfl⟩
  · rfl
  · rfl
  · rfl

theorem line_of_mem_statementFindings
    {vocabulary : Vocabulary} {filePath : String} {line : LogicalLine} {finding : Finding}
    (member : finding ∈ statementFindings vocabulary filePath line) :
    finding.line = line.endLine + 1 := by
  obtain ⟨issue, _, rfl⟩ := List.mem_map.mp member
  rfl

theorem ruleId_of_mem_conditionVerdict
    {evidence : Evidence} {issue : Issue}
    (member : issue ∈ evidence.conditionVerdict) :
    issue.rule.id = "A005" := by
  unfold Evidence.conditionVerdict at member
  split at member
  · split at member
    · exact nomatch member
    · rw [List.mem_singleton.mp member]
      rfl
  · exact nomatch member

theorem ruleId_of_mem_tuningVerdict
    {evidence : Evidence} {issue : Issue}
    (member : issue ∈ evidence.tuningVerdict) :
    issue.rule.id = "A004" := by
  unfold Evidence.tuningVerdict at member
  split at member
  · rw [List.mem_singleton.mp member]
    rfl
  · exact nomatch member

theorem ruleId_of_mem_fileFindings
    {vocabulary : Vocabulary} {filePath : String} {lastLine : Nat}
    {lines : List LogicalLine} {finding : Finding}
    (member : finding ∈ fileFindings vocabulary filePath lastLine lines) :
    finding.ruleId = "A004" ∨ finding.ruleId = "A005" := by
  obtain ⟨issue, issueMember, rfl⟩ := List.mem_map.mp member
  rcases List.mem_append.mp issueMember with condition | tuning
  · exact .inr (ruleId_of_mem_conditionVerdict condition)
  · exact .inl (ruleId_of_mem_tuningVerdict tuning)

theorem line_of_mem_fileFindings
    {vocabulary : Vocabulary} {filePath : String} {lastLine : Nat}
    {lines : List LogicalLine} {finding : Finding}
    (member : finding ∈ fileFindings vocabulary filePath lastLine lines) :
    finding.line = lastLine + 1 := by
  obtain ⟨issue, _, rfl⟩ := List.mem_map.mp member
  rfl

theorem filter_isImmediate
    (vocabulary : Vocabulary) (filePath text : String) :
    ((statementsOf text).flatMap (statementFindings vocabulary filePath) ++
        fileFindings vocabulary filePath (Text.lines text).length
          (statementsOf text)).filter isImmediate =
      (statementsOf text).flatMap (statementFindings vocabulary filePath) := by
  have kept :
      ((statementsOf text).flatMap (statementFindings vocabulary filePath)).filter isImmediate =
        (statementsOf text).flatMap (statementFindings vocabulary filePath) := by
    apply List.filter_eq_self.mpr
    intro finding member
    obtain ⟨line, _, findingMember⟩ := List.mem_flatMap.mp member
    exact isImmediate_of_mem_statementFindings findingMember
  have dropped :
      (fileFindings vocabulary filePath (Text.lines text).length
        (statementsOf text)).filter isImmediate = [] := by
    apply List.filter_eq_nil_iff.mpr
    intro finding member
    rcases ruleId_of_mem_fileFindings member with isA004 | isA005
    · simp [isImmediate, isA004]
    · simp [isImmediate, isA005]
  rw [List.filter_append, kept, dropped, List.append_nil]

theorem endLine_bounds_of_mem_statementsOf
    {text : String} {line : LogicalLine}
    (member : line ∈ statementsOf text) :
    1 ≤ line.endLine ∧ line.endLine ≤ (Text.lines text).length :=
  endLine_bounds_of_mem_statements (List.mem_of_mem_filter member)

theorem lines_ne_nil_of_mem_fileFindings
    {vocabulary : Vocabulary} {filePath text : String} {lastLine : Nat} {finding : Finding}
    (member : finding ∈ fileFindings vocabulary filePath lastLine (statementsOf text)) :
    1 ≤ (Text.lines text).length := by
  cases shape : statementsOf text with
  | nil =>
      rw [shape] at member
      exact nomatch member
  | cons line rest =>
      have bounds : 1 ≤ line.endLine ∧ line.endLine ≤ (Text.lines text).length :=
        endLine_bounds_of_mem_statementsOf (by simp [shape])
      omega

theorem pairwise_line_statementFindings
    (vocabulary : Vocabulary) (filePath text : String) :
    ((statementsOf text).flatMap (statementFindings vocabulary filePath)).Pairwise
      fun earlier later => earlier.line ≤ later.line := by
  rw [List.pairwise_flatMap]
  constructor
  · intro line _
    -- all findings of one statement stand at the same line
    apply List.pairwise_of_forall_mem_list
    intro earlier earlierMember later laterMember
    rw [line_of_mem_statementFindings earlierMember, line_of_mem_statementFindings laterMember]
  · apply ((statements_pairwise_endLine (Text.lines text)).filter _).imp
    intro first second ordered earlier earlierMember later laterMember
    rw [line_of_mem_statementFindings earlierMember, line_of_mem_statementFindings laterMember]
    omega

/-! ## A vocabulary to try the results on -/

def sampleVocabulary : Vocabulary where
  aarch64Processors := ["aarch64"]
  otherProcessors := ["x86_64"]
  libraries := ["MKL"]
  buildOptions := ["avx", "avx2"]
  neoverseCores := ["neoverse-n1"]
  ampereOneCores := []

def sampleTable : Table :=
  [⟨.library, ["MKL"]⟩, ⟨.buildOption, ["avx2", "avx"]⟩, ⟨.neoverseTuning, ["neoverse-n1"]⟩,
    ⟨.otherCondition, ["x86_64"]⟩, ⟨.aarch64Condition, ["aarch64"]⟩]

theorem compile_sampleVocabulary :
    Table.compile sampleVocabulary = .ok sampleTable := by
  cbv

/-! ## Findings about statements -/

/-- The findings about statements are those of the statements that are not blank, one after the
other; the reported lines never decrease, and they lie between the second line and the line behind
the last. -/
theorem immediate_findings_exact
    {vocabulary : Vocabulary} {table : Table}
    (compiled : Table.compile vocabulary = .ok table)
    (filePath text : String) :
    (ofText table filePath text).filter isImmediate =
        (statementsOf text).flatMap (statementFindings vocabulary filePath) ∧
      ((ofText table filePath text).map Finding.line).Pairwise (· ≤ ·) ∧
      ∀ finding ∈ ofText table filePath text,
        2 ≤ finding.line ∧ finding.line ≤ (Text.lines text).length + 1 := by
  rw [ofText_of_compile compiled]
  refine ⟨?_, ?_, ?_⟩
  · exact filter_isImmediate vocabulary filePath text
  · rw [List.pairwise_map, List.pairwise_append]
    refine ⟨pairwise_line_statementFindings vocabulary filePath text, ?_, ?_⟩
    · apply List.pairwise_of_forall_mem_list
      intro earlier earlierMember later laterMember
      rw [line_of_mem_fileFindings earlierMember, line_of_mem_fileFindings laterMember]
    · intro earlier earlierMember later laterMember
      obtain ⟨line, lineMember, findingMember⟩ := List.mem_flatMap.mp earlierMember
      have bounds := endLine_bounds_of_mem_statementsOf lineMember
      rw [line_of_mem_statementFindings findingMember, line_of_mem_fileFindings laterMember]
      omega
  · intro finding member
    rcases List.mem_append.mp member with early | late
    · obtain ⟨line, lineMember, findingMember⟩ := List.mem_flatMap.mp early
      have bounds := endLine_bounds_of_mem_statementsOf lineMember
      rw [line_of_mem_statementFindings findingMember]
      omega
    · have positive := lines_ne_nil_of_mem_fileFindings late
      rw [line_of_mem_fileFindings late]
      omega

/-- A continued statement, a blank line, and a statement that the end of the input cuts off. -/
theorem immediate_findings_exact_sample :
    Table.compile sampleVocabulary = .ok sampleTable ∧
      ((statementsOf "options(-O2 \\\n -mavx2)\n\nfind_package(MKL \\").flatMap
        (statementFindings sampleVocabulary "CMakeLists.txt")).map Finding.id =
          ["A002-CMakeLists.txt:3", "A001-CMakeLists.txt:5"] := by
  have exact :=
    immediate_findings_exact compile_sampleVocabulary "CMakeLists.txt"
      "options(-O2 \\\n -mavx2)\n\nfind_package(MKL \\"
  refine ⟨compile_sampleVocabulary, ?_⟩
  rw [← exact.1]
  decide +kernel

end ArchAudit.Scan
