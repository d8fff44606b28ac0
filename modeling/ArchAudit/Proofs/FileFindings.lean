import ArchAudit.Proofs.ScanFindings

/-!
# Findings about a file as a whole

The verdict on a file is drawn from evidence that was collected on the way.  It depends on what the
statements of the file match and on nothing else: not on their order, apart from the last condition
on another architecture, which is the one that is shown.
-/

namespace ArchAudit.Scan

/-- The findings that carry a given rule identifier. -/
def withRule (id : String) (findings : List Finding) : List Finding :=
  findings.filter fun finding => finding.ruleId = id

/-- The last of some statements that is a condition on another architecture. -/
def lastBranch? (vocabulary : Vocabulary) (lines : List LogicalLine) : Option LogicalLine :=
  (lines.filter fun line => vocabulary.fires .otherCondition line.text).getLast?

theorem evidenceOf_aarch64 (vocabulary : Vocabulary) (lines : List LogicalLine) :
    (evidenceOf vocabulary lines).aarch64 =
      lines.any fun line => vocabulary.knowsAarch64 line.text :=
  Evidence.foldl_gather_flag Evidence.aarch64 vocabulary.knowsAarch64
    (fun _ _ => rfl) .empty lines

theorem evidenceOf_neoverse (vocabulary : Vocabulary) (lines : List LogicalLine) :
    (evidenceOf vocabulary lines).neoverse =
      lines.any fun line => vocabulary.fires .neoverseTuning line.text :=
  Evidence.foldl_gather_flag Evidence.neoverse (vocabulary.fires .neoverseTuning)
    (fun _ _ => rfl) .empty lines

theorem evidenceOf_ampereOne (vocabulary : Vocabulary) (lines : List LogicalLine) :
    (evidenceOf vocabulary lines).ampereOne =
      lines.any fun line => vocabulary.fires .ampereOneTuning line.text :=
  Evidence.foldl_gather_flag Evidence.ampereOne (vocabulary.fires .ampereOneTuning)
    (fun _ _ => rfl) .empty lines

theorem evidenceOf_otherCondition (vocabulary : Vocabulary) (lines : List LogicalLine) :
    (evidenceOf vocabulary lines).otherCondition =
      (lastBranch? vocabulary lines).map LogicalLine.text := by
  rw [evidenceOf, Evidence.foldl_gather_otherCondition, Evidence.empty, Option.or_none,
    lastBranch?]

theorem conditionVerdict_evidenceOf (vocabulary : Vocabulary) (lines : List LogicalLine) :
    (evidenceOf vocabulary lines).conditionVerdict =
      if lines.any fun line => vocabulary.knowsAarch64 line.text then []
      else (lastBranch? vocabulary lines).toList.map fun line => .otherArchCondition line.text := by
  rw [Evidence.conditionVerdict, evidenceOf_otherCondition, evidenceOf_aarch64]
  cases lastBranch? vocabulary lines with
  | none => simp
  | some line => simp

theorem tuningVerdict_evidenceOf (vocabulary : Vocabulary) (lines : List LogicalLine) :
    (evidenceOf vocabulary lines).tuningVerdict =
      if (lines.any fun line => vocabulary.fires .neoverseTuning line.text)
          && !(lines.any fun line => vocabulary.fires .ampereOneTuning line.text) then
        [.counterpartTuningMissing .neoverse .ampereOne]
      else [] := by
  rw [Evidence.tuningVerdict, evidenceOf_neoverse, evidenceOf_ampereOne]

theorem lastBranch?_isSome (vocabulary : Vocabulary) (lines : List LogicalLine) :
    (lastBranch? vocabulary lines).isSome = true ↔
      ∃ line ∈ lines, vocabulary.fires .otherCondition line.text = true := by
  rw [lastBranch?, List.getLast?_isSome, ← List.length_pos_iff, List.length_filter_pos_iff]

theorem withRule_statementFindings
    {id : String}
    (aboutFile : id ∉ ["A001", "A002", "A003"])
    (vocabulary : Vocabulary) (filePath : String) (lines : List LogicalLine) :
    withRule id (lines.flatMap (statementFindings vocabulary filePath)) = [] := by
  apply List.filter_eq_nil_iff.mpr
  intro finding member
  obtain ⟨line, _, findingMember⟩ := List.mem_flatMap.mp member
  have immediate := isImmediate_of_mem_statementFindings findingMember
  simp only [isImmediate, decide_eq_true_eq] at immediate
  simp only [decide_eq_true_eq]
  rintro rfl
  exact aboutFile immediate

theorem withRule_append (id : String) (first second : List Finding) :
    withRule id (first ++ second) = withRule id first ++ withRule id second :=
  List.filter_append first second

theorem withRule_map_verdictFinding
    {own : String} {issues : List Issue}
    (ownRule : ∀ issue ∈ issues, issue.rule.id = own)
    (id filePath : String) (lastLine : Nat) :
    withRule id (issues.map (verdictFinding filePath lastLine)) =
      if own = id then issues.map (verdictFinding filePath lastLine) else [] := by
  have ruleId_eq :
      ∀ finding ∈ issues.map (verdictFinding filePath lastLine), finding.ruleId = own := by
    intro finding member
    obtain ⟨issue, issueMember, rfl⟩ := List.mem_map.mp member
    exact ownRule issue issueMember
  by_cases same : own = id
  · rw [if_pos same]
    apply List.filter_eq_self.mpr
    intro finding member
    exact decide_eq_true ((ruleId_eq finding member).trans same)
  · rw [if_neg same]
    apply List.filter_eq_nil_iff.mpr
    intro finding member
    simp [ruleId_eq finding member, same]

theorem withRule_fileFindings
    (id : String) (vocabulary : Vocabulary) (filePath : String) (lastLine : Nat)
    (lines : List LogicalLine) :
    withRule id (fileFindings vocabulary filePath lastLine lines) =
      (if "A005" = id then
        (evidenceOf vocabulary lines).conditionVerdict.map (verdictFinding filePath lastLine)
      else []) ++
        (if "A004" = id then
          (evidenceOf vocabulary lines).tuningVerdict.map (verdictFinding filePath lastLine)
        else []) := by
  rw [fileFindings, Evidence.verdict, List.map_append, withRule_append,
    withRule_map_verdictFinding (fun _ => ruleId_of_mem_conditionVerdict),
    withRule_map_verdictFinding (fun _ => ruleId_of_mem_tuningVerdict)]

section Compiled

variable {vocabulary : Vocabulary} {table : Table}
variable (compiled : Table.compile vocabulary = .ok table)
variable (filePath text : String)

include compiled

theorem withRule_ofText_condition :
    withRule "A005" (ofText table filePath text) =
      if (statementsOf text).any fun line => vocabulary.knowsAarch64 line.text then []
      else (lastBranch? vocabulary (statementsOf text)).toList.map fun line =>
        .ofIssue (.otherArchCondition line.text) filePath ((Text.lines text).length + 1)
          "end of file" (some (Text.trimmed line.text)) := by
  rw [ofText_of_compile compiled, withRule_append, withRule_statementFindings (by decide),
    withRule_fileFindings, conditionVerdict_evidenceOf]
  simp only [if_true, String.reduceEq, if_false, List.append_nil, List.nil_append]
  split
  · rfl
  · rw [List.map_map]
    rfl

theorem withRule_ofText_tuning :
    withRule "A004" (ofText table filePath text) =
      if ((statementsOf text).any fun line => vocabulary.fires .neoverseTuning line.text)
          && !((statementsOf text).any fun line =>
            vocabulary.fires .ampereOneTuning line.text) then
        [.ofIssue (.counterpartTuningMissing .neoverse .ampereOne) filePath
          ((Text.lines text).length + 1) "end of file" none]
      else [] := by
  rw [ofText_of_compile compiled, withRule_append, withRule_statementFindings (by decide),
    withRule_fileFindings, tuningVerdict_evidenceOf]
  simp only [if_true, String.reduceEq, if_false, List.nil_append]
  split
  · rfl
  · rfl

theorem ofText_eq_immediate_append :
    ofText table filePath text =
      (ofText table filePath text).filter isImmediate ++
        (withRule "A005" (ofText table filePath text) ++
          withRule "A004" (ofText table filePath text)) := by
  rw [ofText_of_compile compiled, filter_isImmediate, withRule_append, withRule_append,
    withRule_statementFindings (by decide), withRule_statementFindings (by decide),
    withRule_fileFindings, withRule_fileFindings]
  simp only [if_true, String.reduceEq, if_false, List.append_nil, List.nil_append]
  rw [← List.map_append]
  rfl

theorem reports_condition_iff :
    withRule "A005" (ofText table filePath text) ≠ [] ↔
      (∃ line ∈ statementsOf text, vocabulary.fires .otherCondition line.text = true) ∧
        ∀ line ∈ statementsOf text, vocabulary.knowsAarch64 line.text = false := by
  rw [withRule_ofText_condition compiled, ← lastBranch?_isSome]
  cases known : (statementsOf text).any fun line => vocabulary.knowsAarch64 line.text with
  | true =>
      obtain ⟨line, member, lineKnows⟩ := List.any_eq_true.mp known
      simp only [if_true, ne_eq, not_true_eq_false, false_iff, not_and]
      intro _ noneKnows
      exact absurd (noneKnows line member) (by simp [lineKnows])
  | false =>
      have noneKnows : ∀ line ∈ statementsOf text, vocabulary.knowsAarch64 line.text = false :=
        fun line member => Bool.eq_false_iff.mpr (List.any_eq_false.mp known line member)
      cases lastBranch? vocabulary (statementsOf text) with
      | none => simp
      | some line => simpa using noneKnows

theorem condition_finding_unique
    {finding : Finding}
    (member : finding ∈ withRule "A005" (ofText table filePath text)) :
    withRule "A005" (ofText table filePath text) = [finding] ∧
      ∃ line, lastBranch? vocabulary (statementsOf text) = some line ∧
        finding =
          .ofIssue (.otherArchCondition line.text) filePath ((Text.lines text).length + 1)
            "end of file" (some (Text.trimmed line.text)) := by
  rw [withRule_ofText_condition compiled] at member ⊢
  split at member
  · exact nomatch member
  · rename_i noneKnows
    rw [if_neg noneKnows]
    cases last : lastBranch? vocabulary (statementsOf text) with
    | none =>
        rw [last] at member
        exact nomatch member
    | some line =>
        rw [last] at member
        have finding_eq := List.mem_singleton.mp member
        exact ⟨by rw [finding_eq]; rfl, line, rfl, finding_eq⟩

theorem reports_tuning_iff :
    withRule "A004" (ofText table filePath text) ≠ [] ↔
      (∃ line ∈ statementsOf text, vocabulary.fires .neoverseTuning line.text = true) ∧
        ∀ line ∈ statementsOf text, vocabulary.fires .ampereOneTuning line.text = false := by
  rw [withRule_ofText_tuning compiled, ne_eq, ite_eq_right_iff, Classical.not_imp]
  simp

theorem tuning_finding_unique
    {finding : Finding}
    (member : finding ∈ withRule "A004" (ofText table filePath text)) :
    withRule "A004" (ofText table filePath text) = [finding] ∧
      finding =
        .ofIssue (.counterpartTuningMissing .neoverse .ampereOne) filePath
          ((Text.lines text).length + 1) "end of file" none := by
  rw [withRule_ofText_tuning compiled] at member ⊢
  split at member
  · rename_i missing
    have finding_eq := List.mem_singleton.mp member
    rw [if_pos missing, finding_eq]
    exact ⟨rfl, rfl⟩
  · exact nomatch member

/-- A Neoverse flag reports missing tuning only where it also shows that the file knows about
AArch64. -/
theorem tuning_excludes_condition :
    withRule "A004" (ofText table filePath text) = [] ∨
      withRule "A005" (ofText table filePath text) = [] := by
  by_contra both
  rw [not_or] at both
  obtain ⟨line, member, tuned⟩ := ((reports_tuning_iff compiled filePath text).mp both.1).1
  have unaware := ((reports_condition_iff compiled filePath text).mp both.2).2 line member
  simp [Vocabulary.knowsAarch64, tuned] at unaware

end Compiled

/-- The findings about the file as a whole, by what its statements match anywhere in the file. -/
theorem file_findings_exact
    {vocabulary : Vocabulary} {table : Table}
    (compiled : Table.compile vocabulary = .ok table)
    (filePath text : String) :
    (withRule "A005" (ofText table filePath text) ≠ [] ↔
        (∃ line ∈ statementsOf text, vocabulary.fires .otherCondition line.text = true) ∧
          ∀ line ∈ statementsOf text, vocabulary.knowsAarch64 line.text = false) ∧
      (∀ finding ∈ withRule "A005" (ofText table filePath text),
        withRule "A005" (ofText table filePath text) = [finding] ∧
          ∃ line, lastBranch? vocabulary (statementsOf text) = some line ∧
            finding =
              .ofIssue (.otherArchCondition line.text) filePath ((Text.lines text).length + 1)
                "end of file" (some (Text.trimmed line.text))) ∧
      (withRule "A004" (ofText table filePath text) ≠ [] ↔
        (∃ line ∈ statementsOf text, vocabulary.fires .neoverseTuning line.text = true) ∧
          ∀ line ∈ statementsOf text, vocabulary.fires .ampereOneTuning line.text = false) ∧
      (∀ finding ∈ withRule "A004" (ofText table filePath text),
        withRule "A004" (ofText table filePath text) = [finding] ∧
          finding =
            .ofIssue (.counterpartTuningMissing .neoverse .ampereOne) filePath
              ((Text.lines text).length + 1) "end of file" none) ∧
      ofText table filePath text =
        (ofText table filePath text).filter isImmediate ++
          (withRule "A005" (ofText table filePath text) ++
            withRule "A004" (ofText table filePath text)) ∧
      (withRule "A004" (ofText table filePath text) = [] ∨
        withRule "A005" (ofText table filePath text) = []) :=
  ⟨reports_condition_iff compiled filePath text,
    fun _ member => condition_finding_unique compiled filePath text member,
    reports_tuning_iff compiled filePath text,
    fun _ member => tuning_finding_unique compiled filePath text member,
    ofText_eq_immediate_append compiled filePath text,
    tuning_excludes_condition compiled filePath text⟩

/-- A branch for another architecture, in a file that never branches on AArch64. -/
theorem file_findings_exact_sample :
    Table.compile sampleVocabulary = .ok sampleTable ∧
      withRule "A005"
          (ofText sampleTable "CMakeLists.txt" "if(CMAKE_SYSTEM_PROCESSOR MATCHES x86_64)") ≠ [] ∧
      ∀ line ∈ statementsOf "if(CMAKE_SYSTEM_PROCESSOR MATCHES x86_64)",
        sampleVocabulary.knowsAarch64 line.text = false := by
  have reported :
      withRule "A005"
        (ofText sampleTable "CMakeLists.txt" "if(CMAKE_SYSTEM_PROCESSOR MATCHES x86_64)") ≠ [] := by
    decide +kernel
  have exact :=
    file_findings_exact compile_sampleVocabulary "CMakeLists.txt"
      "if(CMAKE_SYSTEM_PROCESSOR MATCHES x86_64)"
  exact ⟨compile_sampleVocabulary, reported, (exact.1.mp reported).2⟩

end ArchAudit.Scan
